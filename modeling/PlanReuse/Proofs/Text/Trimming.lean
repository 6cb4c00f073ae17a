import Mathlib.Data.List.DropRight
import PlanReuse.Text.Blank

/-!
# Trimming

A trimmed text is what stands between the blanks of both sides; nothing else of the text can be it.
-/

namespace PlanReuse.Text

def Blanks (s : List Char) : Prop := ∀ c ∈ s, isBlank c = true

/-- Neither the first character is blank nor the last one. -/
structure Tight (s : List Char) : Prop where
  first : ∀ c ∈ s.head?, isBlank c = false
  last : ∀ c ∈ s.getLast?, isBlank c = false

variable {s t l r : List Char}

theorem Blanks.append (hl : Blanks l) (hr : Blanks r) : Blanks (l ++ r) :=
  List.forall_mem_append.mpr ⟨hl, hr⟩

theorem Blanks.notMem {c : Char} (hs : Blanks s) (hc : isBlank c = false) : c ∉ s := by
  intro hmem
  rw [hs c hmem] at hc
  cases hc

theorem trim_eq_rdropWhile (s : List Char) : trim s = (s.dropWhile isBlank).rdropWhile isBlank := rfl

theorem tight_trim (s : List Char) : Tight (trim s) := by
  rw [trim_eq_rdropWhile]
  constructor
  · intro c hc
    obtain ⟨rest, hrest⟩ := List.rdropWhile_prefix isBlank (s.dropWhile isBlank)
    refine head_trimStart s c ?_
    rw [trimStart, ← hrest, List.head?_append, hc]
    rfl
  · intro c hc
    obtain ⟨hne, rfl⟩ := List.mem_getLast?_eq_getLast hc
    exact Bool.eq_false_iff.mpr (List.rdropWhile_last_not isBlank _ hne)

/-- A text is its trimmed text with blanks on both sides. -/
theorem exists_blanks_trim (s : List Char) : ∃ l r, Blanks l ∧ Blanks r ∧ s = l ++ trim s ++ r := by
  refine ⟨s.takeWhile isBlank, (s.dropWhile isBlank).rtakeWhile isBlank, ?_, ?_, ?_⟩
  · exact fun c hc => List.mem_takeWhile_imp hc
  · exact fun c hc => List.mem_rtakeWhile_imp hc
  · rw [trim_eq_rdropWhile, List.append_assoc, List.rdropWhile_append_rtakeWhile,
      List.takeWhile_append_dropWhile]

theorem dropWhile_eq_self_of_head (h : ∀ c ∈ s.head?, isBlank c = false) : s.dropWhile isBlank = s := by
  cases s with
  | nil => rfl
  | cons c s => exact List.dropWhile_cons_of_neg (Bool.eq_false_iff.mp (h c rfl))

theorem trim_pad (hl : Blanks l) (hr : Blanks r) (ht : Tight t) : trim (l ++ t ++ r) = t := by
  rw [trim_eq_rdropWhile, List.append_assoc, List.dropWhile_append_of_pos hl]
  by_cases hnil : t = []
  · rw [hnil, List.nil_append, List.dropWhile_eq_nil_iff.mpr hr]
    rfl
  · have hstart : (t ++ r).dropWhile isBlank = t ++ r := by
      refine dropWhile_eq_self_of_head fun c hc => ht.first c ?_
      rwa [List.head?_append_of_ne_nil _ hnil] at hc
    have hend : t.reverse.dropWhile isBlank = t.reverse := by
      refine dropWhile_eq_self_of_head fun c hc => ht.last c ?_
      rwa [List.head?_reverse] at hc
    rw [hstart, List.rdropWhile, List.reverse_append,
      List.dropWhile_append_of_pos fun c hc => hr c (List.mem_reverse.mp hc), hend, List.reverse_reverse]

theorem trim_eq_iff : trim s = t ↔ Tight t ∧ ∃ l r, Blanks l ∧ Blanks r ∧ s = l ++ t ++ r := by
  constructor
  · rintro rfl
    exact ⟨tight_trim s, exists_blanks_trim s⟩
  · rintro ⟨ht, l, r, hl, hr, rfl⟩
    exact trim_pad hl hr ht

/-- More blanks around a text change nothing. -/
theorem trim_append_blanks (hl : Blanks l) (hr : Blanks r) (s : List Char) :
    trim (l ++ s ++ r) = trim s := by
  obtain ⟨l', r', hl', hr', hs⟩ := exists_blanks_trim s
  rw [trim_eq_iff]
  refine ⟨tight_trim s, l ++ l', r' ++ r, hl.append hl', hr'.append hr, ?_⟩
  calc l ++ s ++ r = l ++ (l' ++ trim s ++ r') ++ r := by rw [← hs]
    _ = l ++ l' ++ trim s ++ (r' ++ r) := by simp only [List.append_assoc]

theorem trim_of_no_blank (h : ∀ c ∈ s, isBlank c = false) : trim s = s := by
  rw [trim_eq_iff]
  refine ⟨⟨fun c hc => h c (List.mem_of_mem_head? hc), fun c hc => h c (List.mem_of_getLast? hc)⟩,
    [], [], List.forall_mem_nil _, List.forall_mem_nil _, ?_⟩
  rw [List.nil_append, List.append_nil]

theorem trim_trim (s : List Char) : trim (trim s) = trim s := by
  obtain ⟨l, r, hl, hr, hs⟩ := exists_blanks_trim s
  have htrim := trim_append_blanks hl hr (trim s)
  rw [← hs] at htrim
  exact htrim.symm

theorem trim_eq_nil_iff : trim s = [] ↔ Blanks s := by
  constructor
  · intro h
    obtain ⟨l, r, hl, hr, hs⟩ := exists_blanks_trim s
    rw [hs, h, List.append_nil]
    exact hl.append hr
  · intro h
    exact trim_eq_iff.mpr ⟨⟨nofun, nofun⟩, s, [], h, List.forall_mem_nil _, by simp⟩

theorem dropWhile_append_cons {c : Char} (hc : isBlank c = false) (a b : List Char) :
    (a ++ c :: b).dropWhile isBlank = a.dropWhile isBlank ++ c :: b := by
  have hstop : (c :: b).dropWhile isBlank = c :: b :=
    List.dropWhile_cons_of_neg (Bool.eq_false_iff.mp hc)
  rw [List.dropWhile_append, hstop]
  split
  · next hempty =>
    rw [List.isEmpty_iff.mp hempty]
    rfl
  · rfl

/-- Trimming goes no further than to a character that is not blank. -/
theorem exists_trim_append_cons {c : Char} (hc : isBlank c = false) (a b : List Char) :
    ∃ l a' b' r, Blanks l ∧ Blanks r ∧ a = l ++ a' ∧ b = b' ++ r ∧ trim (a ++ c :: b) = a' ++ c :: b' := by
  refine ⟨a.takeWhile isBlank, a.dropWhile isBlank, b.rdropWhile isBlank, b.rtakeWhile isBlank,
    fun c hc => List.mem_takeWhile_imp hc, fun c hc => List.mem_rtakeWhile_imp hc,
    List.takeWhile_append_dropWhile.symm, List.rdropWhile_append_rtakeWhile.symm, ?_⟩
  rw [trim_eq_rdropWhile, dropWhile_append_cons hc, List.rdropWhile, List.reverse_append,
    List.reverse_cons, List.append_assoc, List.singleton_append, dropWhile_append_cons hc]
  simp [List.rdropWhile]

end PlanReuse.Text
