import Mathlib.Tactic.SplitIfs
import PlanReuse.Text.Quoted
import PlanReuse.Proofs.Text.Boundary

/-!
# Reading quoted text back

The writing of a character between the quotes begins no other one's, and the closing quote begins none.
So a quoted text is determined by any text it stands at the front of.
-/

namespace PlanReuse.Text

/-! ### Hexadecimal digits -/

theorem exists_digitChar_of_mem_hex {c : Char} (n : Nat) (h : c ∈ hex n) :
    ∃ d < 16, c = Nat.digitChar d := by
  induction n using Nat.strongRecOn with
  | ind n ih =>
    rw [hex, Nat.toDigits_eq_if (by decide)] at h
    split at h
    · next hn => exact ⟨n, hn, List.mem_singleton.mp h⟩
    · next hn =>
      rcases List.mem_append.mp h with h | h
      · exact ih (n / 16) (by omega) h
      · exact ⟨n % 16, Nat.mod_lt _ (by decide), List.mem_singleton.mp h⟩

theorem digitChar_injective {c d : Nat} (hc : c < 16) (hd : d < 16)
    (h : Nat.digitChar c = Nat.digitChar d) : c = d := by
  have hall : ∀ c < 16, ∀ d < 16, Nat.digitChar c = Nat.digitChar d → c = d := by decide
  exact hall c hc d hd h

theorem hex_injective {m n : Nat} (h : hex m = hex n) : m = n := by
  induction m using Nat.strongRecOn generalizing n with
  | ind m ih =>
    have hsplit (k : Nat) (hk : ¬k < 16) : hex k = hex (k / 16) ++ [Nat.digitChar (k % 16)] := by
      rw [hex, Nat.toDigits_eq_if (by decide), if_neg hk, hex]
    have hshort (k : Nat) (hk : k < 16) : hex k = [Nat.digitChar k] := Nat.toDigits_of_lt_base hk
    have hlong (k : Nat) : 0 < (hex k).length := List.length_pos_iff.mpr Nat.toDigits_ne_nil
    rcases Nat.lt_or_ge m 16 with hm | hm
    · rcases Nat.lt_or_ge n 16 with hn | hn
      · rw [hshort m hm, hshort n hn] at h
        exact digitChar_injective hm hn (List.cons.inj h).1
      · have hlength := congrArg List.length h
        rw [hshort m hm, hsplit n (by omega), List.length_append] at hlength
        have := hlong (n / 16)
        simp only [List.length_singleton] at hlength
        omega
    · rcases Nat.lt_or_ge n 16 with hn | hn
      · have hlength := congrArg List.length h
        rw [hshort n hn, hsplit m (by omega), List.length_append] at hlength
        have := hlong (m / 16)
        simp only [List.length_singleton] at hlength
        omega
      · rw [hsplit m (by omega), hsplit n (by omega)] at h
        obtain ⟨hfront, hlast⟩ := List.append_inj' h rfl
        have hquotient : m / 16 = n / 16 := ih (m / 16) (by omega) hfront
        have hrest : m % 16 = n % 16 := digitChar_injective (Nat.mod_lt _ (by decide))
          (Nat.mod_lt _ (by decide)) (List.cons.inj hlast).1
        omega

/-- A number in hexadecimal ends at the brace. -/
theorem hex_append_inj {m n : Nat} {s t : List Char} (h : hex m ++ '\x7d' :: s = hex n ++ '\x7d' :: t) :
    m = n ∧ s = t := by
  have hbrace (k : Nat) : ∀ c ∈ hex k, (c != '\x7d') = true := by
    intro c hc
    obtain ⟨d, hd, rfl⟩ := exists_digitChar_of_mem_hex k hc
    have hall : ∀ d < 16, (Nat.digitChar d != '\x7d') = true := by decide
    exact hall d hd
  obtain ⟨hmn, hst⟩ := append_inj_of_stops (hbrace m) (hbrace n) (by simp) (by simp) h
  exact ⟨hex_injective hmn, (List.cons.inj hst).2⟩

/-! ### Escapes -/

/-- The characters that are written as a letter after a backslash, each with its letter. -/
def escapeLetters : List (Char × Char) :=
  [('"', '"'), ('\\', '\\'), ('\n', 'n'), ('\r', 'r'), ('\t', 't'), ('\x00', '0')]

/-- The three ways a character is written: a letter after a backslash, its code point, or itself. -/
theorem escapeChar_cases (c : Char) :
    (∃ x, (c, x) ∈ escapeLetters ∧ escapeChar c = ['\\', x]) ∨
    escapeChar c = '\\' :: 'u' :: '\x7b' :: (hex c.toNat ++ ['\x7d']) ∨
    (c ≠ '\\' ∧ c ≠ '"' ∧ escapeChar c = [c]) := by
  unfold escapeChar
  split_ifs with hquote hslash hn hr ht h0 hhidden
  · exact Or.inl ⟨'"', by rw [hquote]; decide, rfl⟩
  · exact Or.inl ⟨'\\', by rw [hslash]; decide, rfl⟩
  · exact Or.inl ⟨'n', by rw [hn]; decide, rfl⟩
  · exact Or.inl ⟨'r', by rw [hr]; decide, rfl⟩
  · exact Or.inl ⟨'t', by rw [ht]; decide, rfl⟩
  · exact Or.inl ⟨'0', by rw [h0]; decide, rfl⟩
  · exact Or.inr (Or.inl rfl)
  · exact Or.inr (Or.inr ⟨hslash, hquote, rfl⟩)

theorem escapeLetters_injective {c d x : Char} (hc : (c, x) ∈ escapeLetters)
    (hd : (d, x) ∈ escapeLetters) : c = d := by
  have hall : ∀ p ∈ escapeLetters, ∀ q ∈ escapeLetters, p.2 = q.2 → p.1 = q.1 := by decide
  exact hall _ hc _ hd rfl

/-- The letter that announces a code point stands for no character itself. -/
theorem not_mem_escapeLetters (c : Char) : (c, 'u') ∉ escapeLetters := by
  intro hc
  have hall : ∀ p ∈ escapeLetters, p.2 ≠ 'u' := by decide
  exact hall _ hc rfl

theorem escapeChar_append_inj {c d : Char} {s t : List Char}
    (h : escapeChar c ++ s = escapeChar d ++ t) : c = d ∧ s = t := by
  rcases escapeChar_cases c with ⟨x, hx, hc⟩ | hc | ⟨hc1, _, hc⟩ <;>
    rcases escapeChar_cases d with ⟨y, hy, hd⟩ | hd | ⟨hd1, _, hd⟩ <;>
    rw [hc, hd] at h <;> simp only [List.cons_append, List.nil_append, List.append_assoc,
      List.cons.injEq, true_and] at h
  · obtain ⟨rfl, hst⟩ := h
    exact ⟨escapeLetters_injective hx hy, hst⟩
  · rw [h.1] at hx
    exact absurd hx (not_mem_escapeLetters c)
  · exact absurd h.1.symm hd1
  · rw [← h.1] at hy
    exact absurd hy (not_mem_escapeLetters d)
  · obtain ⟨hcode, hst⟩ := hex_append_inj h
    exact ⟨Char.toNat_inj.mp hcode, hst⟩
  · exact absurd h.1.symm hd1
  · exact absurd h.1 hc1
  · exact absurd h.1 hc1
  · exact h

/-- The writing of a character is not taken for the closing quote. -/
theorem escapeChar_append_ne_quote (c : Char) (s t : List Char) : escapeChar c ++ s ≠ '"' :: t := by
  intro h
  rcases escapeChar_cases c with ⟨x, _, hc⟩ | hc | ⟨_, hc1, hc⟩ <;> rw [hc] at h <;>
    simp only [List.cons_append, List.nil_append, List.cons.injEq] at h
  · exact absurd h.1 (by decide)
  · exact absurd h.1 (by decide)
  · exact hc1 h.1

/-! ### Quoted texts -/

theorem escaped_append_inj {u v s t : List Char}
    (h : u.flatMap escapeChar ++ '"' :: s = v.flatMap escapeChar ++ '"' :: t) : u = v ∧ s = t := by
  induction u generalizing v with
  | nil =>
    cases v with
    | nil => exact ⟨rfl, (List.cons.inj h).2⟩
    | cons d v =>
      rw [List.flatMap_cons, List.append_assoc] at h
      exact absurd h.symm (escapeChar_append_ne_quote d _ _)
  | cons c u ih =>
    rw [List.flatMap_cons, List.append_assoc] at h
    cases v with
    | nil => exact absurd h (escapeChar_append_ne_quote c _ _)
    | cons d v =>
      rw [List.flatMap_cons, List.append_assoc] at h
      obtain ⟨hcd, h⟩ := escapeChar_append_inj h
      obtain ⟨huv, hst⟩ := ih h
      exact ⟨by rw [hcd, huv], hst⟩

theorem quoted_append_inj {u v s t : List Char} (h : quoted u ++ s = quoted v ++ t) :
    u = v ∧ s = t := by
  simp only [quoted, List.cons_append, List.append_assoc, List.cons.injEq, true_and] at h
  exact escaped_append_inj h

end PlanReuse.Text
