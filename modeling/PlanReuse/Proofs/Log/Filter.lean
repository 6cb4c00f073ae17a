import PlanReuse.Log.Filter
import PlanReuse.Proofs.Text.Cutting
import PlanReuse.Proofs.Text.Trimming
import PlanReuse.Settings.Basic

/-!
# The grammar of level filters

A filter is a list of clauses between commas, and a pattern behind a slash if there is one. A clause is a
name, or a name and a level with an equals sign between them; blanks may stand around each of them. So no
filter has two slashes, no clause two equals signs, and no name blanks inside.
-/

namespace PlanReuse.Log

open Text (Blanks isBlank trim)

variable {s : List Char}

/-! ### Parts and levels -/

/-- Something with blanks on both sides. -/
inductive Padded (P : List Char → Prop) : List Char → Prop
  | intro {l m r : List Char} (hl : Blanks l) (hm : P m) (hr : Blanks r) : Padded P (l ++ m ++ r)

/-- No blanks inside; nothing at all is a word as well. -/
def Word (m : List Char) : Prop := ∀ c ∈ m, isBlank c = false

/-- The name of a level, in any case of letters. -/
def LevelName (m : List Char) : Prop := ∃ n ∈ levelNames, n.toList = m.map Char.toLower

theorem isPart_iff : isPart s = true ↔ Padded Word s := by
  rw [isPart, Bool.not_eq_true', List.any_eq_false]
  constructor
  · intro h
    obtain ⟨l, r, hl, hr, hs⟩ := Text.exists_blanks_trim s
    rw [hs]
    exact .intro hl (fun c hc => Bool.eq_false_iff.mpr (h c hc)) hr
  · rintro ⟨hl, hm, hr⟩ c hc
    rw [Text.trim_append_blanks hl hr, Text.trim_of_no_blank hm] at hc
    exact Bool.eq_false_iff.mp (hm c hc)

/-- A blank is no letter. -/
theorem toLower_of_isBlank {c : Char} (h : isBlank c = true) : c.toLower = c := by
  refine dif_neg ?_
  rintro ⟨hlow, hhigh⟩
  have hlow : 65 ≤ c.toNat := hlow
  have hhigh : c.toNat ≤ 90 := hhigh
  simp only [isBlank, Bool.or_eq_true, Bool.and_eq_true, decide_eq_true_eq, beq_iff_eq] at h
  omega

theorem LevelName.word {m : List Char} (h : LevelName m) : Word m := by
  obtain ⟨n, hn, hlower⟩ := h
  have hnames : (levelNames.all fun n => n.toList.all fun c => !isBlank c) = true := by decide
  intro c hc
  by_contra hblank
  rw [Bool.not_eq_false] at hblank
  have hmem : c ∈ n.toList := by
    rw [hlower, ← toLower_of_isBlank hblank]
    exact List.mem_map_of_mem hc
  have hletter := List.all_eq_true.mp (List.all_eq_true.mp hnames n hn) c hmem
  rw [hblank] at hletter
  cases hletter

theorem isLevel_iff : isLevel s = true ↔ Padded LevelName s := by
  have hlevel : isLevel s = true ↔ LevelName (trim s) := by
    simp only [isLevel, LevelName, List.any_eq_true, beq_iff_eq]
  rw [hlevel]
  constructor
  · intro h
    obtain ⟨l, r, hl, hr, hs⟩ := Text.exists_blanks_trim s
    rw [hs]
    exact .intro hl h hr
  · rintro ⟨hl, hm, hr⟩
    rwa [Text.trim_append_blanks hl hr, Text.trim_of_no_blank hm.word]

theorem isPart_eq_of_trim_eq {a b : List Char} (h : trim a = trim b) : isPart a = isPart b := by
  rw [isPart, h, isPart]

/-! ### Clauses -/

/-- Blanks, or a level with blanks on both sides. -/
def LevelOrNone (b : List Char) : Prop := Blanks b ∨ Padded LevelName b

/-- A name, or a name and a level; a name alone may itself be the one of a level. -/
inductive Clause : List Char → Prop
  | alone {a : List Char} (hfree : '=' ∉ a) (ha : Padded Word a) : Clause a
  | bound {a b : List Char} (hfreeA : '=' ∉ a) (ha : Padded Word a) (hfreeB : '=' ∉ b)
      (hb : LevelOrNone b) : Clause (a ++ '=' :: b)

theorem levelOrNone_iff {b : List Char} :
    ((trim b).isEmpty || isLevel b) = true ↔ LevelOrNone b := by
  rw [Bool.or_eq_true, List.isEmpty_iff, Text.trim_eq_nil_iff, isLevel_iff, LevelOrNone]

theorem levelOrNone_append_blanks {l b r : List Char} (hl : Blanks l) (hr : Blanks r) :
    LevelOrNone (l ++ b ++ r) ↔ LevelOrNone b := by
  rw [← levelOrNone_iff, ← levelOrNone_iff, isLevel, isLevel, Text.trim_append_blanks hl hr]

theorem isBlank_equals : isBlank '=' = false := by decide

theorem isClause_iff : isClause s = true ↔ Clause s := by
  rw [isClause, Bool.or_eq_true]
  constructor
  · intro h
    obtain ⟨l, r, hl, hr, hs⟩ := Text.exists_blanks_trim s
    have hfreeL := hl.notMem isBlank_equals
    have hfreeR := hr.notMem isBlank_equals
    rcases h with hempty | h
    · have hnil := List.isEmpty_iff.mp hempty
      refine .alone ((Text.trim_eq_nil_iff.mp hnil).notMem isBlank_equals) (isPart_iff.mp ?_)
      rw [isPart, hnil]
      rfl
    · split at h
      · next a hcut =>
        obtain ⟨hfree, ha⟩ := cutAt_eq_one_iff.mp hcut
        refine .alone ?_ (isPart_iff.mp ((isPart_eq_of_trim_eq ?_).trans h))
        · rw [hs, ha, List.mem_append, List.mem_append]
          rintro ((h | h) | h)
          · exact hfreeL h
          · exact hfree h
          · exact hfreeR h
        · rw [← ha, Text.trim_trim]
      · next a b hcut =>
        obtain ⟨hfreeA, hfreeB, hab⟩ := cutAt_eq_two_iff.mp hcut
        obtain ⟨ha, hb⟩ := Bool.and_eq_true_iff.mp h
        have hsplit : s = (l ++ a) ++ '=' :: (b ++ r) := by
          rw [hs, hab]
          simp only [List.append_assoc, List.cons_append]
        rw [hsplit]
        refine .bound ?_ (isPart_iff.mp ((isPart_eq_of_trim_eq ?_).trans ha)) ?_ ?_
        · exact fun h => (List.mem_append.mp h).elim hfreeL hfreeA
        · have htrim := Text.trim_append_blanks hl (List.forall_mem_nil _) a
          rwa [List.append_nil] at htrim
        · exact fun h => (List.mem_append.mp h).elim hfreeB hfreeR
        · exact (levelOrNone_append_blanks (List.forall_mem_nil _) hr).mpr (levelOrNone_iff.mp hb)
      · cases h
  · intro h
    right
    cases h with
    | alone hfree ha =>
      have hcut : cutAt '=' (trim s) = [trim s] := by
        refine cutAt_eq_one_iff.mpr ⟨fun h => hfree ?_, rfl⟩
        obtain ⟨l, r, _, _, hs⟩ := Text.exists_blanks_trim s
        rw [hs]
        exact List.mem_append_left _ (List.mem_append_right _ h)
      rw [hcut]
      exact (isPart_eq_of_trim_eq (Text.trim_trim s)).trans (isPart_iff.mpr ha)
    | @bound a b hfreeA ha hfreeB hb =>
      obtain ⟨l, a', b', r, hl, hr, rfl, rfl, htrim⟩ := Text.exists_trim_append_cons isBlank_equals a b
      have hcut : cutAt '=' (trim (l ++ a' ++ '=' :: (b' ++ r))) = [a', b'] := by
        rw [htrim]
        exact cutAt_eq_two_iff.mpr ⟨fun h => hfreeA (List.mem_append_right _ h),
          fun h => hfreeB (List.mem_append_left _ h), rfl⟩
      rw [hcut]
      refine Bool.and_eq_true_iff.mpr ⟨?_, levelOrNone_iff.mpr ?_⟩
      · have hpad := Text.trim_append_blanks hl (List.forall_mem_nil _) a'
        rw [List.append_nil] at hpad
        exact (isPart_eq_of_trim_eq hpad.symm).trans (isPart_iff.mpr ha)
      · exact (levelOrNone_append_blanks (List.forall_mem_nil _) hr).mp hb

/-! ### Filters -/

theorem mem_intercalate {c d : Char} (h : d ≠ c) {ps : List (List Char)} :
    d ∈ [c].intercalate ps ↔ ∃ p ∈ ps, d ∈ p := by
  induction ps with
  | nil => simp [List.intercalate]
  | cons p ps ih =>
    cases ps with
    | nil => simp [List.intercalate]
    | cons q qs =>
      rw [List.intercalate_cons_cons, List.mem_append, List.mem_append, ih, List.mem_singleton,
        or_iff_left h]
      simp only [List.mem_cons, exists_eq_or_imp]

theorem all_clauses_iff : (cutAt ',' s).all isClause = true ↔
    ∃ clauses : List (List Char), clauses ≠ [] ∧ (∀ a ∈ clauses, ',' ∉ a ∧ Clause a) ∧
      s = [','].intercalate clauses := by
  rw [List.all_eq_true]
  constructor
  · intro h
    obtain ⟨hne, hfree, hjoin⟩ := cutAt_eq_iff.mp (rfl : cutAt ',' s = cutAt ',' s)
    exact ⟨cutAt ',' s, hne, fun a ha => ⟨hfree a ha, isClause_iff.mp (h a ha)⟩, hjoin.symm⟩
  · rintro ⟨clauses, hne, hall, hjoin⟩ a ha
    rw [cutAt_eq_iff.mpr ⟨hne, fun p hp => (hall p hp).1, hjoin.symm⟩] at ha
    exact isClause_iff.mpr (hall a ha).2

/-- A text is a filter exactly if it is a list of clauses between commas, with or without a slash and a
pattern behind it. -/
theorem isFilter_iff (text : String) :
    isFilter text = true ↔
      ∃ clauses : List (List Char), clauses ≠ [] ∧
        (∀ a ∈ clauses, ',' ∉ a ∧ '/' ∉ a ∧ Clause a) ∧
        (text.toList = [','].intercalate clauses ∨
          ∃ pattern, (∀ c ∈ pattern, c ≠ '/' ∧ isPatternChar c = true) ∧
            text.toList = [','].intercalate clauses ++ '/' :: pattern) := by
  have hslash : '/' ≠ ',' := by decide
  rw [isFilter]
  constructor
  · intro h
    split at h
    · next levels hcut =>
      obtain ⟨hfree, htext⟩ := cutAt_eq_one_iff.mp hcut
      obtain ⟨clauses, hne, hall, rfl⟩ := all_clauses_iff.mp h
      refine ⟨clauses, hne, fun a ha => ⟨(hall a ha).1, ?_, (hall a ha).2⟩, Or.inl htext⟩
      exact fun h => hfree ((mem_intercalate hslash).mpr ⟨a, ha, h⟩)
    · next levels pattern hcut =>
      obtain ⟨hfree, hfreePattern, htext⟩ := cutAt_eq_two_iff.mp hcut
      obtain ⟨hlevels, hpattern⟩ := Bool.and_eq_true_iff.mp h
      obtain ⟨clauses, hne, hall, rfl⟩ := all_clauses_iff.mp hlevels
      refine ⟨clauses, hne, fun a ha => ⟨(hall a ha).1, ?_, (hall a ha).2⟩,
        Or.inr ⟨pattern, fun c hc => ⟨?_, List.all_eq_true.mp hpattern c hc⟩, htext⟩⟩
      · exact fun h => hfree ((mem_intercalate hslash).mpr ⟨a, ha, h⟩)
      · exact fun h => hfreePattern (h ▸ hc)
    · cases h
  · rintro ⟨clauses, hne, hall, htext⟩
    have hfree : '/' ∉ [','].intercalate clauses := by
      rw [mem_intercalate hslash]
      rintro ⟨a, ha, h⟩
      exact (hall a ha).2.1 h
    have hclauses : (cutAt ',' ([','].intercalate clauses)).all isClause = true :=
      all_clauses_iff.mpr ⟨clauses, hne, fun a ha => ⟨(hall a ha).1, (hall a ha).2.2⟩, rfl⟩
    rcases htext with htext | ⟨pattern, hpattern, htext⟩
    · rw [cutAt_eq_one_iff.mpr ⟨hfree, htext⟩]
      exact hclauses
    · rw [cutAt_eq_two_iff.mpr ⟨hfree, fun h => (hpattern _ h).1 rfl, htext⟩]
      exact Bool.and_eq_true_iff.mpr
        ⟨hclauses, List.all_eq_true.mpr fun c hc => (hpattern c hc).2⟩

/-- The level that a log has before anything is set. -/
theorem isFilter_standard : isFilter Settings.standard.log.level = true := by decide

end PlanReuse.Log
