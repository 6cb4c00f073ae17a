import Mathlib.Tactic.IntervalCases
import Mathlib.Tactic.SplitIfs
import PlanReuse.Proofs.Text.Boundary
import PlanReuse.Toml.Writer

/-!
# Reading strings back

A string is read as it was written, in whichever of the four notations, and whatever characters are in it;
the reader stops where the writer did, unless a further quote follows.
-/

namespace PlanReuse.Toml

open Text (Stops)

variable {several : Bool} {c d quote : Char} {s t w rest : List Char}

/-! ### Characters between double quotes -/

/-- The texts that stand for a character between double quotes, apart from a quote that needs no escape. -/
inductive Stands (several : Bool) (c : Char) : List Char → Prop
  | asIs (hc : isPrintable c = true ∨ several = true ∧ c = '\n') (hquote : c ≠ '"')
      (hbackslash : c ≠ '\\') : Stands several c [c]
  | letter (e : Char) (he : letterEscape? e = some c) : Stands several c ['\\', e]
  | code (h₁ h₂ h₃ h₄ : Char) (hcode : codeEscape? [h₁, h₂, h₃, h₄] = some c) :
      Stands several c ['\\', 'u', h₁, h₂, h₃, h₄]

theorem codeEscape?_hexFour (hc : c.toNat < 128) : codeEscape? (hexFour c.toNat) = some c := by
  have hall : ∀ n < 128, codeEscape? (hexFour n) = some (Char.ofNat n) := by decide +kernel
  rw [hall c.toNat hc, Char.ofNat_toNat]

theorem exists_hexFour_eq {n : Nat} (hn : n < 128) :
    ∃ h₁ h₂ h₃ h₄, hexFour n = [h₁, h₂, h₃, h₄] := by
  have hall : ∀ n < 128, (hexFour n).length = 4 := by decide +kernel
  match hexFour n, hall n hn with
  | [h₁, h₂, h₃, h₄], _ => exact ⟨h₁, h₂, h₃, h₄, rfl⟩

theorem toNat_lt_of_needsEscape (h : needsEscape c = true) : c.toNat < 128 := by
  simp only [needsEscape, Bool.or_eq_true, Bool.and_eq_true, decide_eq_true_eq] at h
  omega

theorem isPrintable_or_newline (h : needsEscape c = false) : isPrintable c = true ∨ c = '\n' := by
  simp only [needsEscape, isPrintable, Bool.or_eq_true, Bool.and_eq_true, decide_eq_true_eq,
    Bool.or_eq_false_iff, Bool.and_eq_false_iff, decide_eq_false_iff_not, beq_iff_eq] at h ⊢
  by_cases htab : c = '\t'
  · exact Or.inl (Or.inl htab)
  · by_cases hnewline : c = '\n'
    · exact Or.inr hnewline
    · simp only [htab, hnewline, not_true_eq_false, not_false_eq_true, ne_eq, or_false] at h
      omega

theorem stands_needsEscape (h : needsEscape c = true) :
    Stands several c ('\\' :: 'u' :: hexFour c.toNat) := by
  have hc := toNat_lt_of_needsEscape h
  obtain ⟨h₁, h₂, h₃, h₄, hdigits⟩ := exists_hexFour_eq hc
  rw [hdigits]
  exact .code h₁ h₂ h₃ h₄ (hdigits ▸ codeEscape?_hexFour hc)

/-- A character is written by a text that stands for it, or is a quote that needs no escape. -/
theorem escapeFrom_cons (several : Bool) (quotes : Nat) (c : Char) (r : List Char) :
    (c = '"' ∧ several = true ∧ quotes < 2 ∧
        escapeFrom several quotes (c :: r) = '"' :: escapeFrom several (quotes + 1) r) ∨
      ∃ w, Stands several c w ∧ escapeFrom several quotes (c :: r) = w ++ escapeFrom several 0 r := by
  rw [escapeFrom]
  split_ifs with hquote hfree hb ht hn hs hf hr hbackslash hcontrol
  · exact Or.inl ⟨hquote, hfree.1, hfree.2, rfl⟩
  · exact Or.inr ⟨['\\', '"'], .letter '"' (by rw [hquote]; rfl), rfl⟩
  · exact Or.inr ⟨['\\', 'b'], .letter 'b' (by rw [hb]; rfl), rfl⟩
  · exact Or.inr ⟨['\\', 't'], .letter 't' (by rw [ht]; rfl), rfl⟩
  · exact Or.inr ⟨['\n'], hn ▸ .asIs (Or.inr ⟨hs, hn⟩) hquote (by rw [hn]; decide), rfl⟩
  · exact Or.inr ⟨['\\', 'n'], .letter 'n' (by rw [hn]; rfl), rfl⟩
  · exact Or.inr ⟨['\\', 'f'], .letter 'f' (by rw [hf]; rfl), rfl⟩
  · exact Or.inr ⟨['\\', 'r'], .letter 'r' (by rw [hr]; rfl), rfl⟩
  · exact Or.inr ⟨['\\', '\\'], .letter '\\' (by rw [hbackslash]; rfl), rfl⟩
  · exact Or.inr ⟨_, stands_needsEscape hcontrol, rfl⟩
  · have hprintable := (isPrintable_or_newline (Bool.not_eq_true _ ▸ hcontrol)).resolve_right hn
    exact Or.inr ⟨[c], .asIs (Or.inl hprintable) hquote hbackslash, rfl⟩

theorem Stands.exists_head (h : Stands several c w) : ∃ d v, w = d :: v ∧ d ≠ '"' := by
  cases h with
  | asIs hc hquote hbackslash => exact ⟨c, [], rfl, hquote⟩
  | letter e he => exact ⟨'\\', [e], rfl, by decide⟩
  | code h₁ h₂ h₃ h₄ hcode => exact ⟨'\\', ['u', h₁, h₂, h₃, h₄], rfl, by decide⟩

/-! ### One quote -/

theorem readBasic?_of_stands (h : Stands false c w) :
    readBasic? (w ++ t) = consTo c (readBasic? t) := by
  cases h with
  | asIs hc hquote hbackslash =>
    have hprintable : isPrintable c = true := by simpa using hc
    rw [List.singleton_append, readBasic?.eq_def]
    simp only [if_neg hquote, if_neg hbackslash, if_pos hprintable]
  | letter e he =>
    rw [readBasic?.eq_def]
    simp [he]
  | code h₁ h₂ h₃ h₄ hcode =>
    have hletter : letterEscape? 'u' = none := rfl
    rw [readBasic?.eq_def]
    simp [hletter, hcode]

theorem readBasic?_escapeFrom (s : List Char) (quotes : Nat) (rest : List Char) :
    readBasic? (escapeFrom false quotes s ++ '"' :: rest) = some (s, rest) := by
  induction s generalizing quotes with
  | nil =>
    rw [readBasic?.eq_def]
    rfl
  | cons c s ih =>
    rcases escapeFrom_cons false quotes c s with ⟨_, hseveral, _⟩ | ⟨w, hw, heq⟩
    · cases hseveral
    · rw [heq, List.append_assoc, readBasic?_of_stands hw, ih]
      rfl

theorem readLiteral?_append (h : ∀ c ∈ s, c ≠ '\'' ∧ isPrintable c = true) (rest : List Char) :
    readLiteral? (s ++ '\'' :: rest) = some (s, rest) := by
  induction s with
  | nil => rfl
  | cons c s ih =>
    obtain ⟨hquote, hprintable⟩ := h c List.mem_cons_self
    rw [List.cons_append, readLiteral?, if_neg hquote, if_pos hprintable,
      ih fun d hd => h d (List.mem_cons_of_mem c hd)]
    rfl

/-! ### Runs of quotes -/

theorem best_le_longestRun (c : Char) (run best : Nat) (s : List Char) :
    best ≤ longestRun c run best s := by
  induction s generalizing run best with
  | nil => exact Nat.le_refl best
  | cons d s ih =>
    rw [longestRun]
    split
    · exact Nat.le_trans (Nat.le_max_left ..) (ih ..)
    · exact ih ..

theorem longestRun_mono {run run' best best' : Nat} (hrun : run ≤ run') (hbest : best ≤ best')
    (c : Char) (s : List Char) : longestRun c run best s ≤ longestRun c run' best' s := by
  induction s generalizing run run' best best' with
  | nil => exact hbest
  | cons d s ih =>
    rw [longestRun, longestRun]
    split
    · exact ih (by omega) (by omega)
    · exact ih (Nat.le_refl 0) hbest

theorem longestRun_of_cons {run best : Nat} :
    longestRun c 0 0 s ≤ longestRun c run best (d :: s) := by
  rw [longestRun]
  split
  · exact longestRun_mono (Nat.zero_le _) (Nat.zero_le _) c s
  · exact longestRun_mono (Nat.le_refl 0) (Nat.zero_le best) c s

theorem ne_of_longestRun_eq_zero (h : longestRun quote 0 0 s = 0) : ∀ c ∈ s, c ≠ quote := by
  induction s with
  | nil =>
    intro c hc
    cases hc
  | cons d s ih =>
    have htail : longestRun quote 0 0 s = 0 :=
      Nat.le_zero.mp (Nat.le_trans longestRun_of_cons (Nat.le_of_eq h))
    intro c hc
    rcases List.mem_cons.mp hc with rfl | hc
    · rintro rfl
      rw [longestRun, if_pos rfl] at h
      have := best_le_longestRun c (0 + 1) (max 0 (0 + 1)) s
      omega
    · exact ih htail c hc

/-- A text begins with a run of quotes, which is all of it or ends at some other character. -/
def Leads (quote : Char) (k : Nat) (s : List Char) : Prop :=
  s = List.replicate k quote ∨ ∃ d r, d ≠ quote ∧ s = List.replicate k quote ++ d :: r

theorem Leads.cons {k : Nat} (h : Leads quote k s) : Leads quote (k + 1) (quote :: s) := by
  rcases h with rfl | ⟨d, r, hd, rfl⟩
  · exact Or.inl rfl
  · exact Or.inr ⟨d, r, hd, rfl⟩

theorem exists_leads {run best most : Nat} (hrun : run ≤ most) (h : longestRun quote run best s ≤ most) :
    ∃ k, run + k ≤ most ∧ Leads quote k s := by
  induction s generalizing run best with
  | nil => exact ⟨0, hrun, Or.inl rfl⟩
  | cons d s ih =>
    by_cases hd : d = quote
    · subst hd
      rw [longestRun, if_pos rfl] at h
      have hlonger := Nat.le_trans (best_le_longestRun ..) h
      obtain ⟨k, hk, hleads⟩ := ih (by omega) h
      exact ⟨k + 1, by omega, hleads.cons⟩
    · exact ⟨0, hrun, Or.inr ⟨d, s, hd, rfl⟩⟩

/-- However many quotes are in a string, no three of them stand in a row where it is written. -/
theorem exists_leads_escapeFrom {quotes : Nat} (hquotes : quotes ≤ 2) (s : List Char) :
    ∃ k, quotes + k ≤ 2 ∧ Leads '"' k (escapeFrom true quotes s) := by
  induction s generalizing quotes with
  | nil => exact ⟨0, hquotes, Or.inl rfl⟩
  | cons c s ih =>
    rcases escapeFrom_cons true quotes c s with ⟨_, _, hfew, heq⟩ | ⟨w, hw, heq⟩
    · obtain ⟨k, hk, hleads⟩ := ih hfew
      exact ⟨k + 1, by omega, heq ▸ hleads.cons⟩
    · obtain ⟨d, v, rfl, hd⟩ := hw.exists_head
      exact ⟨0, hquotes, Or.inr ⟨d, v ++ escapeFrom true 0 s, hd, heq⟩⟩

theorem eq_of_escapeFrom_eq_replicate {quotes k : Nat}
    (h : escapeFrom true quotes s = List.replicate k '"') : s = List.replicate k '"' := by
  induction s generalizing quotes k with
  | nil => exact h
  | cons c s ih =>
    cases k with
    | zero =>
      rcases escapeFrom_cons true quotes c s with ⟨_, _, _, heq⟩ | ⟨w, hw, heq⟩
      · cases heq.symm.trans h
      · obtain ⟨d, v, rfl, _⟩ := hw.exists_head
        cases heq.symm.trans h
    | succ k =>
      rw [List.replicate_succ] at h ⊢
      rcases escapeFrom_cons true quotes c s with ⟨rfl, _, _, heq⟩ | ⟨w, hw, heq⟩
      · rw [ih (List.cons.inj (heq.symm.trans h)).2]
      · obtain ⟨d, v, rfl, hd⟩ := hw.exists_head
        exact absurd (List.cons.inj (heq.symm.trans h)).1 hd

/-! ### Three quotes -/

/-- The text between three quotes is closed where nothing is left of it but quotes. -/
theorem closing?_eq_some {k : Nat} (hk : k ≤ 2) (hrest : Stops (· == quote) rest) :
    closing? quote (List.replicate k quote ++ quote :: quote :: quote :: rest) =
      some (List.replicate k quote, rest) := by
  have hnext : ∀ e ∈ rest.head?, e ≠ quote := fun e he => by simpa using hrest e he
  interval_cases k
  all_goals
    rcases rest with _ | ⟨e, _ | ⟨f, rest⟩⟩ <;> simp_all [closing?]

theorem closing?_eq_none {k : Nat} (hk : k ≤ 2) (hd : d ≠ quote) (r : List Char) :
    closing? quote (List.replicate k quote ++ d :: r) = none := by
  interval_cases k
  all_goals
    rcases r with _ | ⟨e, _ | ⟨f, r⟩⟩ <;> simp [closing?, hd]

theorem closing?_of_leads {k : Nat} (hk : k ≤ 2) (hs : Leads quote k s)
    (hrest : Stops (· == quote) rest) :
    (s = List.replicate k quote ∧
        closing? quote (s ++ quote :: quote :: quote :: rest) = some (s, rest)) ∨
      closing? quote (s ++ quote :: quote :: quote :: rest) = none := by
  rcases hs with rfl | ⟨d, r, hd, rfl⟩
  · exact Or.inl ⟨rfl, closing?_eq_some hk hrest⟩
  · right
    rw [List.append_assoc]
    exact closing?_eq_none hk hd _

theorem readLines?_of_closing (h : closing? '"' ('"' :: t) = some (s, rest)) :
    readLines? false ('"' :: t) = some (s, rest) := by
  rw [readLines?.eq_def]
  simp [h]

theorem readLines?_quote (h : closing? '"' ('"' :: t) = none) :
    readLines? false ('"' :: t) = consTo '"' (readLines? false t) := by
  have hprintable : isPrintable '"' = true := rfl
  rw [readLines?.eq_def]
  simp [h, hprintable]

theorem dropLineEnd?_of_ne (hn : c ≠ '\n') (hr : c ≠ '\r') : dropLineEnd? (c :: t) = none := by
  rw [dropLineEnd?.eq_def]
  split
  · next heq => exact absurd (List.cons.inj heq).1 hn
  · next heq => exact absurd (List.cons.inj heq).1 hr
  · rfl

/-- No escape is taken for the end of a line. -/
theorem endsLine_of_letterEscape? (hc : letterEscape? d = some c) : endsLine (d :: t) = false := by
  have hne : ∀ e, letterEscape? e = none → d ≠ e := by
    rintro e he rfl
    cases hc.symm.trans he
  have hspace : isSpace d = false := by simp [isSpace, hne ' ' rfl, hne '\t' rfl]
  have hskip : skipSpaces (d :: t) = d :: t := by rw [skipSpaces, List.dropWhile_cons, hspace]; rfl
  rw [endsLine, hskip, dropLineEnd?_of_ne (hne '\n' rfl) (hne '\r' rfl)]
  rfl

theorem readLines?_of_stands (h : Stands true c w) :
    readLines? false (w ++ t) = consTo c (readLines? false t) := by
  have hopen : ∀ d r, d ≠ '"' → closing? '"' (d :: r) = none := fun d r hd =>
    closing?_eq_none (Nat.zero_le 2) hd r
  cases h with
  | asIs hc hquote hbackslash =>
    have hreturn : c ≠ '\r' := by
      rintro rfl
      revert hc
      decide
    have hplain : isPrintable c = true ∨ c = '\n' := by simpa using hc
    rw [List.singleton_append, readLines?.eq_def]
    simp [hopen c t hquote, hreturn, hbackslash, hplain]
  | letter e he =>
    rw [readLines?.eq_def]
    simp [hopen, endsLine_of_letterEscape? he, he]
  | code h₁ h₂ h₃ h₄ hcode =>
    have hletter : letterEscape? 'u' = none := rfl
    have hline : ∀ r, endsLine ('u' :: r) = false := fun _ => rfl
    rw [readLines?.eq_def]
    simp [hopen, hline, hletter, hcode]

theorem readLines?_escapeFrom {quotes : Nat} (hquotes : quotes ≤ 2) (s : List Char)
    (hrest : Stops (· == '"') rest) :
    readLines? false (escapeFrom true quotes s ++ '"' :: '"' :: '"' :: rest) = some (s, rest) := by
  induction s generalizing quotes with
  | nil => exact readLines?_of_closing (closing?_eq_some (Nat.zero_le 2) hrest)
  | cons c s ih =>
    rcases escapeFrom_cons true quotes c s with ⟨rfl, _, hfew, heq⟩ | ⟨w, hw, heq⟩
    · obtain ⟨k, hk, hleads⟩ := exists_leads_escapeFrom hquotes ('"' :: s)
      rw [heq] at hleads ⊢
      -- Quotes at the very end are read together with the closing ones, and no others are.
      rcases closing?_of_leads (by omega) hleads hrest with ⟨hall, hclosed⟩ | hopen
      · rw [List.cons_append] at hclosed ⊢
        rw [readLines?_of_closing hclosed, hall, eq_of_escapeFrom_eq_replicate (heq.trans hall)]
      · rw [List.cons_append] at hopen ⊢
        rw [readLines?_quote hopen, ih hfew]
        rfl
    · rw [heq, List.append_assoc, readLines?_of_stands hw, ih (Nat.zero_le 2)]
      rfl

theorem readLiteralLines?_append (hchars : ∀ c ∈ s, isPrintable c = true ∨ c = '\n')
    (hruns : longestRun '\'' 0 0 s ≤ 2) (hrest : Stops (· == '\'') rest) :
    readLiteralLines? (s ++ '\'' :: '\'' :: '\'' :: rest) = some (s, rest) := by
  induction s with
  | nil =>
    have hclosed := closing?_eq_some (Nat.zero_le 2) hrest
    simp only [List.replicate_zero, List.nil_append] at hclosed ⊢
    rw [readLiteralLines?, hclosed]
  | cons c s ih =>
    obtain ⟨k, hk, hleads⟩ := exists_leads (Nat.zero_le 2) hruns
    rcases closing?_of_leads (by omega) hleads hrest with ⟨hall, hclosed⟩ | hopen
    · rw [List.cons_append] at hclosed ⊢
      rw [readLiteralLines?, hclosed]
    · have hc : isPrintable c = true ∨ c = '\n' ∨ c = '\r' ∧
          (s ++ '\'' :: '\'' :: '\'' :: rest).head? = some '\n' :=
        (hchars c List.mem_cons_self).imp_right Or.inl
      rw [List.cons_append] at hopen ⊢
      rw [readLiteralLines?, hopen]
      simp only [if_pos hc]
      rw [ih (fun d hd => hchars d (List.mem_cons_of_mem c hd))
        (Nat.le_trans longestRun_of_cons hruns)]
      rfl

/-! ### The line end after the opening quotes -/

theorem ne_return_of_isPrintable (h : isPrintable c = true) : c ≠ '\r' := by
  rintro rfl
  revert h
  decide

theorem dropFirstLineEnd_firstLineEnd (h : '\n' ∈ s ∨ dropLineEnd? t = none) :
    dropFirstLineEnd (firstLineEnd s ++ t) = t := by
  rw [firstLineEnd]
  split
  · rfl
  · next hnone =>
    have ht : dropLineEnd? t = none := h.resolve_left fun hmem => hnone (by simpa using hmem)
    rw [List.nil_append, dropFirstLineEnd, ht, Option.getD_none]

theorem dropLineEnd?_escapeFrom (hs : '\n' ∉ s) (quotes : Nat) (t : List Char) :
    dropLineEnd? (escapeFrom true quotes s ++ '"' :: t) = none := by
  cases s with
  | nil => exact dropLineEnd?_of_ne (by decide) (by decide)
  | cons c s =>
    have hnewline : c ≠ '\n' := fun h => hs (h ▸ List.mem_cons_self)
    rcases escapeFrom_cons true quotes c s with ⟨_, _, _, heq⟩ | ⟨w, hw, heq⟩
    · rw [heq]
      exact dropLineEnd?_of_ne (by decide) (by decide)
    · rw [heq]
      cases hw with
      | asIs hc _ _ =>
        have hprintable : isPrintable c = true := hc.resolve_right fun h => hnewline h.2
        exact dropLineEnd?_of_ne hnewline (ne_return_of_isPrintable hprintable)
      | letter _ _ => exact dropLineEnd?_of_ne (by decide) (by decide)
      | code _ _ _ _ _ => exact dropLineEnd?_of_ne (by decide) (by decide)

theorem dropLineEnd?_append (hchars : ∀ c ∈ s, isPrintable c = true ∨ c = '\n') (hs : '\n' ∉ s)
    (t : List Char) : dropLineEnd? (s ++ '\'' :: t) = none := by
  cases s with
  | nil => exact dropLineEnd?_of_ne (by decide) (by decide)
  | cons c s =>
    have hnewline : c ≠ '\n' := fun h => hs (h ▸ List.mem_cons_self)
    have hprintable := (hchars c List.mem_cons_self).resolve_right hnewline
    exact dropLineEnd?_of_ne hnewline (ne_return_of_isPrintable hprintable)

/-! ### The four notations -/

theorem of_notationOf_eq_literal (h : notationOf s = .literal) :
    (∀ c ∈ s, needsEscape c = false) ∧ longestRun '\'' 0 0 s = 0 ∧ '\n' ∉ s := by
  simp only [notationOf] at h
  split_ifs at h
  simp_all

theorem of_notationOf_eq_literalLines (h : notationOf s = .literalLines) :
    (∀ c ∈ s, needsEscape c = false) ∧ longestRun '\'' 0 0 s ≤ 2 := by
  simp only [notationOf] at h
  split_ifs at h
  simp_all

def isQuote (c : Char) : Bool := c == '"' || c == '\''

theorem stops_of_stops_isQuote (h : Stops isQuote rest) (hquote : quote = '"' ∨ quote = '\'') :
    Stops (· == quote) rest := by
  intro c hc
  have hc' := h c hc
  simp only [isQuote, Bool.or_eq_false_iff] at hc'
  rcases hquote with rfl | rfl
  · exact hc'.1
  · exact hc'.2

theorem readString?_double (h : ∀ r, t ≠ '"' :: '"' :: r) : readString? ('"' :: t) = readBasic? t := by
  rw [readString?.eq_def]
  split
  · next heq => exact absurd (List.cons.inj heq).2 (h _)
  · next heq => cases (List.cons.inj heq).1
  · next heq => rw [(List.cons.inj heq).2]
  · next heq => cases (List.cons.inj heq).1
  · next hdouble _ => exact absurd rfl (hdouble t)

theorem readString?_single (h : ∀ r, t ≠ '\'' :: '\'' :: r) :
    readString? ('\'' :: t) = readLiteral? t := by
  rw [readString?.eq_def]
  split
  · next heq => cases (List.cons.inj heq).1
  · next heq => exact absurd (List.cons.inj heq).2 (h _)
  · next heq => cases (List.cons.inj heq).1
  · next heq => rw [(List.cons.inj heq).2]
  · next hsingle => exact absurd rfl (hsingle t)

theorem stops_escapeFrom (s : List Char) : Stops (· == '"') (escapeFrom false 0 s) := by
  cases s with
  | nil => exact Text.stops_nil _
  | cons c s =>
    rcases escapeFrom_cons false 0 c s with ⟨_, hseveral, _⟩ | ⟨w, hw, heq⟩
    · cases hseveral
    · obtain ⟨d, v, rfl, hd⟩ := hw.exists_head
      rw [heq, List.cons_append, Text.stops_cons]
      exact beq_false_of_ne hd

theorem stops_of_not_mem (h : ∀ c ∈ s, c ≠ quote) : Stops (· == quote) s := fun c hc =>
  beq_false_of_ne (h c (List.mem_of_mem_head? hc))

/-- A string between one quote never begins with what opens a string of several lines. -/
theorem append_quote_ne (ht : Stops (· == quote) t) (hrest : Stops (· == quote) rest) (r : List Char) :
    t ++ quote :: rest ≠ quote :: quote :: r := by
  intro heq
  cases t with
  | nil =>
    have hnext : rest = quote :: r := (List.cons.inj heq).2
    rw [hnext, Text.stops_cons, beq_self_eq_true] at hrest
    cases hrest
  | cons c t =>
    have hc : c = quote := (List.cons.inj heq).1
    rw [hc, Text.stops_cons, beq_self_eq_true] at ht
    cases ht

/-- The reader gives back any string and all that stands behind it. -/
theorem readString?_writeString (s : List Char) (hrest : Stops isQuote rest) :
    readString? (writeString s ++ rest) = some (s, rest) := by
  have hdouble : Stops (· == '"') rest := stops_of_stops_isQuote hrest (Or.inl rfl)
  have hsingle : Stops (· == '\'') rest := stops_of_stops_isQuote hrest (Or.inr rfl)
  rw [writeString]
  cases hnotation : notationOf s with
  | basic =>
    simp only [List.cons_append, List.append_assoc, List.nil_append]
    rw [readString?_double (append_quote_ne (stops_escapeFrom s) hdouble), readBasic?_escapeFrom]
  | literal =>
    obtain ⟨hcontrols, hsingles, hnewline⟩ := of_notationOf_eq_literal hnotation
    have hne := ne_of_longestRun_eq_zero hsingles
    have hchars : ∀ c ∈ s, c ≠ '\'' ∧ isPrintable c = true := fun c hc =>
      ⟨hne c hc, (isPrintable_or_newline (hcontrols c hc)).resolve_right fun h => hnewline (h ▸ hc)⟩
    simp only [List.cons_append, List.append_assoc, List.nil_append]
    rw [readString?_single (append_quote_ne (stops_of_not_mem hne) hsingle), readLiteral?_append hchars]
  | lines =>
    have hend : '\n' ∈ s ∨ dropLineEnd? (escapeFrom true 0 s ++ '"' :: '"' :: '"' :: rest) = none :=
      or_iff_not_imp_left.mpr fun hs => dropLineEnd?_escapeFrom hs 0 _
    simp only [List.cons_append, List.append_assoc, List.nil_append]
    rw [readString?, dropFirstLineEnd_firstLineEnd hend, readLines?_escapeFrom (Nat.zero_le 2) s hdouble]
  | literalLines =>
    obtain ⟨hcontrols, hsingles⟩ := of_notationOf_eq_literalLines hnotation
    have hchars : ∀ c ∈ s, isPrintable c = true ∨ c = '\n' := fun c hc =>
      isPrintable_or_newline (hcontrols c hc)
    have hend : '\n' ∈ s ∨ dropLineEnd? (s ++ '\'' :: '\'' :: '\'' :: rest) = none :=
      or_iff_not_imp_left.mpr fun hs => dropLineEnd?_append hchars hs _
    simp only [List.cons_append, List.append_assoc, List.nil_append]
    rw [readString?, dropFirstLineEnd_firstLineEnd hend, readLiteralLines?_append hchars hsingles hsingle]

end PlanReuse.Toml
