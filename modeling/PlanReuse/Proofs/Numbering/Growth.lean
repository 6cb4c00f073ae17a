import Mathlib.Data.List.Range
import PlanReuse.Numbering.Basic
import PlanReuse.Proofs.Lookup

/-!
# How a numbering grows

What one change makes of a numbering. As long as no change drops the table it only grows, and what has
been numbered keeps its number. Every drop begins a new generation.
-/

namespace PlanReuse.Numbering

/-! ### Well-formed tables -/

/-- No shape is in the table twice, and the numbers in use are those below the next one, each once. -/
structure Sound (c : Numbering) : Prop where
  distinct : (c.entries.map Prod.fst).Nodup
  numbers : c.entries.map Prod.snd = (List.range c.next).reverse

theorem Sound.nodup_numbers {c : Numbering} (hc : c.Sound) : (c.entries.map Prod.snd).Nodup := by
  rw [hc.numbers]
  exact List.nodup_reverse.mpr List.nodup_range

theorem mem_entries_of_numberOf? {c : Numbering} {s : Shape} {n : Nat} (h : c.numberOf? s = some n) :
    (s, n) ∈ c.entries :=
  mem_of_lookup_eq_some h

theorem not_mem_shapes_of_numberOf? {c : Numbering} {s : Shape} (h : c.numberOf? s = none) :
    s ∉ c.entries.map Prod.fst := by
  intro hs
  obtain ⟨e, he, hes⟩ := List.mem_map.mp hs
  have hne := List.lookup_eq_none_iff.mp h e he
  simp [hes] at hne

/-- Two shapes with one number are one shape. -/
theorem Sound.eq_of_numberOf? {c : Numbering} (hc : c.Sound) {s t : Shape} {n : Nat}
    (hs : c.numberOf? s = some n) (ht : c.numberOf? t = some n) : s = t := by
  have he : (s, n) = (t, n) := List.inj_on_of_nodup_map hc.nodup_numbers
    (mem_entries_of_numberOf? hs) (mem_entries_of_numberOf? ht) rfl
  exact congrArg Prod.fst he

theorem sound_empty (limit shapeBytes : Nat) : (empty limit shapeBytes).Sound := by
  constructor
  · exact List.nodup_nil
  · rfl

theorem sound_clear (c : Numbering) : c.clear.Sound := by
  constructor
  · exact List.nodup_nil
  · rfl

theorem Sound.setLimit {c : Numbering} (hc : c.Sound) (limit : Nat) : (c.setLimit limit).Sound :=
  ⟨hc.distinct, hc.numbers⟩

theorem Sound.push {c : Numbering} (hc : c.Sound) {s : Shape} (hs : c.numberOf? s = none) :
    (c.push s).Sound := by
  constructor
  · show (s :: c.entries.map Prod.fst).Nodup
    exact List.nodup_cons.mpr ⟨not_mem_shapes_of_numberOf? hs, hc.distinct⟩
  · show c.next :: c.entries.map Prod.snd = (List.range (c.next + 1)).reverse
    rw [List.range_succ, List.reverse_append, hc.numbers]
    rfl

/-! ### Growth -/

/-- A later table of the same generation: what the first one has numbered has its number still. -/
structure Extends (c d : Numbering) : Prop where
  generation : d.generation = c.generation
  keeps : ∀ s n, c.numberOf? s = some n → d.numberOf? s = some n

theorem Extends.refl (c : Numbering) : Extends c c := ⟨rfl, fun _ _ h => h⟩

theorem Extends.trans {c d e : Numbering} (hcd : Extends c d) (hde : Extends d e) : Extends c e := by
  constructor
  · rw [hde.generation, hcd.generation]
  · intro s n h
    exact hde.keeps s n (hcd.keeps s n h)

theorem extends_push {c : Numbering} {s : Shape} (hs : c.numberOf? s = none) :
    Extends c (c.push s) := by
  refine ⟨rfl, ?_⟩
  intro t n ht
  have hts : t ≠ s := by
    intro he
    rw [he, hs] at ht
    cases ht
  rw [numberOf?_push, if_neg hts, ht]

/-- What a table may become: it grows, or it is dropped at least once. -/
def Precedes (c d : Numbering) : Prop := Extends c d ∨ c.generation < d.generation

theorem Precedes.trans {c d e : Numbering} (hcd : Precedes c d) (hde : Precedes d e) :
    Precedes c e := by
  rcases hcd with hcd | hcd
  · rcases hde with hde | hde
    · exact Or.inl (hcd.trans hde)
    · exact Or.inr (by rw [← hcd.generation]; exact hde)
  · rcases hde with hde | hde
    · exact Or.inr (by rw [hde.generation]; exact hcd)
    · exact Or.inr (Nat.lt_trans hcd hde)

/-- Between two tables of one generation nothing is lost. -/
theorem Precedes.extends {c d : Numbering} (h : Precedes c d) (hg : d.generation = c.generation) :
    Extends c d := by
  rcases h with h | h
  · exact h
  · omega

theorem precedes_clear (c : Numbering) : Precedes c c.clear := Or.inr (Nat.lt_succ_self _)

/-! ### Assigning -/

/-- All that an assignment can do. -/
theorem assign_cases (c : Numbering) (s : Shape) :
    (∃ n, c.numberOf? s = some n ∧ c.assign s = (some n, c)) ∨
    (c.numberOf? s = none ∧ c.hasRoom = true ∧ c.assign s = (some c.next, c.push s)) ∨
    (c.numberOf? s = none ∧ c.hasRoom = false ∧ c.assign s = (none, c.clear)) := by
  unfold assign
  cases hs : c.numberOf? s with
  | some n => exact Or.inl ⟨n, rfl, rfl⟩
  | none =>
    cases hroom : c.hasRoom with
    | true => exact Or.inr (Or.inl ⟨rfl, rfl, rfl⟩)
    | false => exact Or.inr (Or.inr ⟨rfl, rfl, rfl⟩)

theorem Sound.assign {c : Numbering} (hc : c.Sound) (s : Shape) : (c.assign s).2.Sound := by
  rcases c.assign_cases s with ⟨n, _, h⟩ | ⟨hs, _, h⟩ | ⟨_, _, h⟩
  · rw [h]; exact hc
  · rw [h]; exact hc.push hs
  · rw [h]; exact c.sound_clear

/-- A number that is given stays looked up, and nothing else loses its own. -/
theorem assign_some {c d : Numbering} {s : Shape} {n : Nat} (h : c.assign s = (some n, d)) :
    Extends c d ∧ d.numberOf? s = some n := by
  rcases c.assign_cases s with ⟨m, hm, he⟩ | ⟨hs, _, he⟩ | ⟨_, _, he⟩
  · rw [he] at h
    obtain ⟨hmn, hcd⟩ := Prod.mk.inj h
    subst hcd
    exact ⟨Extends.refl c, by rw [hm, hmn]⟩
  · rw [he] at h
    obtain ⟨hn, hd⟩ := Prod.mk.inj h
    subst hd
    exact ⟨extends_push hs, by rw [numberOf?_push, if_pos rfl, hn]⟩
  · rw [he] at h
    cases (Prod.mk.inj h).1

theorem assign_none {c d : Numbering} {s : Shape} (h : c.assign s = (none, d)) : d = c.clear := by
  rcases c.assign_cases s with ⟨m, _, he⟩ | ⟨_, _, he⟩ | ⟨_, _, he⟩
  · rw [he] at h
    cases (Prod.mk.inj h).1
  · rw [he] at h
    cases (Prod.mk.inj h).1
  · rw [he] at h
    exact (Prod.mk.inj h).2.symm

theorem assignAll_cons_none {c d : Numbering} {s : Shape} (h : c.assign s = (none, d))
    (ss : List Shape) : c.assignAll (s :: ss) = (none, d) := by
  rw [assignAll, h]

theorem assignAll_cons_some {c d : Numbering} {s : Shape} {n : Nat} (h : c.assign s = (some n, d))
    (ss : List Shape) :
    c.assignAll (s :: ss) = ((d.assignAll ss).1.map (n :: ·), (d.assignAll ss).2) := by
  rw [assignAll, h]
  rcases hs : d.assignAll ss with ⟨_ | ns, e⟩ <;> simp only [hs] <;> rfl

theorem Sound.assignAll {c : Numbering} (hc : c.Sound) (ss : List Shape) :
    (c.assignAll ss).2.Sound := by
  induction ss generalizing c with
  | nil => exact hc
  | cons s ss ih =>
    have hd : (c.assign s).2.Sound := hc.assign s
    rcases h : c.assign s with ⟨_ | n, d⟩ <;> rw [h] at hd
    · rw [assignAll_cons_none h]
      exact hd
    · rw [assignAll_cons_some h]
      exact ih hd

/-- After the numbers of a list are given, the table answers the list with them. -/
theorem assignAll_some {c d : Numbering} {ss : List Shape} {ns : List Nat}
    (h : c.assignAll ss = (some ns, d)) : Extends c d ∧ ss.map d.numberOf? = ns.map some := by
  induction ss generalizing c ns with
  | nil =>
    rw [assignAll] at h
    obtain ⟨hns, hd⟩ := Prod.mk.inj h
    cases hns
    subst hd
    exact ⟨Extends.refl c, rfl⟩
  | cons s ss ih =>
    rcases hs : c.assign s with ⟨_ | n, e⟩
    · rw [assignAll_cons_none hs] at h
      cases (Prod.mk.inj h).1
    · rw [assignAll_cons_some hs] at h
      obtain ⟨hns, hd⟩ := Prod.mk.inj h
      obtain ⟨ms, hms, hns⟩ := Option.map_eq_some_iff.mp hns
      obtain ⟨hce, hn⟩ := assign_some hs
      obtain ⟨hed, hmap⟩ := ih (Prod.ext hms hd)
      refine ⟨hce.trans hed, ?_⟩
      rw [← hns, List.map_cons, List.map_cons, hed.keeps s n hn, hmap]

/-- If one of a list does not fit, the table is dropped, once. -/
theorem assignAll_none {c d : Numbering} {ss : List Shape} (h : c.assignAll ss = (none, d)) :
    d.generation = c.generation + 1 ∧ d.entries = [] ∧ d.next = 0 := by
  induction ss generalizing c with
  | nil => cases (Prod.mk.inj h).1
  | cons s ss ih =>
    rcases hs : c.assign s with ⟨_ | n, e⟩
    · rw [assignAll_cons_none hs] at h
      obtain ⟨_, hd⟩ := Prod.mk.inj h
      rw [← hd, assign_none hs]
      exact ⟨rfl, rfl, rfl⟩
    · rw [assignAll_cons_some hs] at h
      obtain ⟨hnone, hd⟩ := Prod.mk.inj h
      obtain ⟨hg, hrest⟩ := ih (Prod.ext (Option.map_eq_none_iff.mp hnone) hd)
      refine ⟨?_, hrest⟩
      rw [hg, (assign_some hs).1.generation]

/-! ### Resolving -/

theorem Sound.resolve {c : Numbering} (hc : c.Sound) (ss : List Shape) : (c.resolve ss).2.Sound := by
  have hd := hc.assignAll ss
  unfold Numbering.resolve
  rcases h : c.assignAll ss with ⟨_ | ns, d⟩ <;> rw [h] at hd
  · exact ⟨hd.distinct, hd.numbers⟩
  · exact hd

theorem resolve_some {c d : Numbering} {ss : List Shape} {r : Numbers}
    (h : c.resolve ss = (some r, d)) :
    Extends c d ∧ r.generation = d.generation ∧ ss.map d.numberOf? = r.numbers.map some := by
  unfold resolve at h
  rcases hs : c.assignAll ss with ⟨_ | ns, e⟩ <;> rw [hs] at h
  · cases (Prod.mk.inj h).1
  · obtain ⟨hr, hd⟩ := Prod.mk.inj h
    cases hr
    subst hd
    obtain ⟨hce, hmap⟩ := assignAll_some hs
    exact ⟨hce, rfl, hmap⟩

theorem precedes_resolve (c : Numbering) (ss : List Shape) : Precedes c (c.resolve ss).2 := by
  rcases h : c.resolve ss with ⟨_ | r, d⟩
  · right
    unfold resolve at h
    rcases hs : c.assignAll ss with ⟨_ | ns, e⟩ <;> rw [hs] at h
    · obtain ⟨_, hd⟩ := Prod.mk.inj h
      have hg := (assignAll_none hs).1
      rw [← hd]
      show c.generation < e.generation
      omega
    · cases (Prod.mk.inj h).1
  · exact Or.inl (resolve_some h).1

/-- A table in which every shape of two lists has a number tells the lists apart by their numbers. -/
theorem Sound.numbers_eq_iff {c : Numbering} (hc : c.Sound) {ss ts : List Shape} {ms ns : List Nat}
    (hs : ss.map c.numberOf? = ms.map some) (ht : ts.map c.numberOf? = ns.map some) :
    ms = ns ↔ ss = ts := by
  constructor
  · intro h
    subst h
    induction ss generalizing ts ms with
    | nil =>
      cases ms with
      | nil =>
        cases ts with
        | nil => rfl
        | cons t ts => cases ht
      | cons m ms => cases hs
    | cons s ss ih =>
      cases ms with
      | nil => cases hs
      | cons m ms =>
        cases ts with
        | nil => cases ht
        | cons t ts =>
          simp only [List.map_cons, List.cons.injEq] at hs ht
          rw [hc.eq_of_numberOf? hs.1 ht.1, ih hs.2 ht.2]
  · intro h
    subst h
    rw [hs] at ht
    exact (List.map_inj_right (fun _ _ => Option.some.inj)).mp ht

end PlanReuse.Numbering
