import PlanReuse.Proofs.Numbering.Consistency

/-!
# Batches

The shapes of a list are looked up and numbered one by one, and any of them may turn out not to fit. What
comes of the whole list depends on three numbers all the same: the size of the table, the count of the
shapes that are new to it, and the limit. Either all of the new ones are numbered, in the order in which
they are first met, or the table is dropped.
-/

namespace PlanReuse.Numbering

/-! ### New shapes -/

/-- The shapes of a list that have no number, each once, in the order of their first occurrence. -/
def fresh (c : Numbering) (ss : List Shape) : List Shape :=
  (ss.filter fun s => (c.numberOf? s).isNone).eraseDups

theorem mem_fresh {c : Numbering} {ss : List Shape} {s : Shape} :
    s ∈ c.fresh ss ↔ s ∈ ss ∧ c.numberOf? s = none := by
  rw [fresh, List.mem_eraseDups, List.mem_filter, Option.isNone_iff_eq_none]

theorem fresh_cons_of_known {c : Numbering} {s : Shape} {n : Nat} (h : c.numberOf? s = some n)
    (ss : List Shape) : c.fresh (s :: ss) = c.fresh ss := by
  rw [fresh, List.filter_cons_of_neg (by simp [h])]
  rfl

/-- Once the first new shape has its number, the others are new still. -/
theorem fresh_cons_of_new {c : Numbering} {s : Shape} (h : c.numberOf? s = none) (ss : List Shape) :
    c.fresh (s :: ss) = s :: (c.push s).fresh ss := by
  have hothers : (ss.filter fun t => (c.numberOf? t).isNone).filter (fun t => !t == s) =
      ss.filter fun t => ((c.push s).numberOf? t).isNone := by
    rw [List.filter_filter]
    apply List.filter_congr
    intro t _
    by_cases hts : t = s
    · simp [hts, numberOf?_push]
    · simp [hts, numberOf?_push]
  rw [fresh, List.filter_cons_of_pos (by simp [h]), List.eraseDups_cons, hothers]
  rfl

theorem nodup_fresh (c : Numbering) (ss : List Shape) : (c.fresh ss).Nodup := by
  induction ss generalizing c with
  | nil => exact List.nodup_nil
  | cons s ss ih =>
    cases hs : c.numberOf? s with
    | some n =>
      rw [fresh_cons_of_known hs]
      exact ih c
    | none =>
      rw [fresh_cons_of_new hs, List.nodup_cons]
      refine ⟨?_, ih (c.push s)⟩
      intro hmem
      have hnone := (mem_fresh.mp hmem).2
      rw [numberOf?_push, if_pos rfl] at hnone
      cases hnone

/-- New shapes stand in the order in which the list has them first. -/
theorem fresh_pairwise (c : Numbering) (ss : List Shape) :
    (c.fresh ss).Pairwise fun s t => ss.idxOf s < ss.idxOf t := by
  have hshift {d : Numbering} {s : Shape} {ts : List Shape} (hs : s ∉ d.fresh ts)
      (h : (d.fresh ts).Pairwise fun t u => ts.idxOf t < ts.idxOf u) :
      (d.fresh ts).Pairwise fun t u => (s :: ts).idxOf t < (s :: ts).idxOf u := by
    refine h.imp_of_mem ?_
    intro t u ht hu htu
    have hst : s ≠ t := fun he => hs (he ▸ ht)
    have hsu : s ≠ u := fun he => hs (he ▸ hu)
    rw [List.idxOf_cons_ne _ hst, List.idxOf_cons_ne _ hsu]
    exact Nat.succ_lt_succ htu
  induction ss generalizing c with
  | nil => exact List.Pairwise.nil
  | cons s ss ih =>
    cases hs : c.numberOf? s with
    | some n =>
      rw [fresh_cons_of_known hs]
      refine hshift ?_ (ih c)
      intro hmem
      rw [(mem_fresh.mp hmem).2] at hs
      cases hs
    | none =>
      have hnodup := c.nodup_fresh (s :: ss)
      rw [fresh_cons_of_new hs, List.nodup_cons] at hnodup
      rw [fresh_cons_of_new hs, List.pairwise_cons]
      refine ⟨?_, hshift hnodup.1 (ih (c.push s))⟩
      intro t ht
      have hst : s ≠ t := fun he => hnodup.1 (he ▸ ht)
      rw [List.idxOf_cons_self, List.idxOf_cons_ne _ hst]
      exact Nat.succ_pos _

/-! ### Many shapes at once -/

/-- Gives the next numbers to shapes that have none. -/
def pushAll (c : Numbering) (ss : List Shape) : Numbering := ss.foldl push c

theorem pushAll_eq (c : Numbering) (ss : List Shape) :
    c.pushAll ss = { c with
      entries := (ss.zipIdx c.next).reverse ++ c.entries, next := c.next + ss.length } := by
  induction ss generalizing c with
  | nil => rfl
  | cons s ss ih =>
    show (c.push s).pushAll ss = _
    rw [ih]
    simp only [push, List.zipIdx_cons, List.reverse_cons, List.append_assoc, List.singleton_append,
      List.length_cons, Nat.add_assoc, Nat.add_comm 1]

theorem size_pushAll (c : Numbering) (ss : List Shape) : (c.pushAll ss).size = c.size + ss.length := by
  rw [pushAll_eq]
  simp [size, Nat.add_comm]

theorem numberOf?_pushAll {ss : List Shape} (hss : ss.Nodup) (c : Numbering) (t : Shape) :
    (c.pushAll ss).numberOf? t =
      if t ∈ ss then some (c.next + ss.idxOf t) else c.numberOf? t := by
  induction ss generalizing c with
  | nil => rfl
  | cons s ss ih =>
    obtain ⟨hs, hss⟩ := List.nodup_cons.mp hss
    show ((c.push s).pushAll ss).numberOf? t = _
    rw [ih hss, numberOf?_push]
    by_cases hts : t = s
    · subst hts
      rw [if_neg hs, if_pos rfl, if_pos List.mem_cons_self, List.idxOf_cons_self, Nat.add_zero]
    · have hst : s ≠ t := Ne.symm hts
      rw [if_neg hts, List.idxOf_cons_ne _ hst]
      by_cases htss : t ∈ ss
      · rw [if_pos htss, if_pos (List.mem_cons_of_mem _ htss)]
        congr 1
        show c.next + 1 + ss.idxOf t = c.next + (ss.idxOf t + 1)
        omega
      · rw [if_neg htss, if_neg (by simp [hts, htss])]

theorem Sound.pushAll {c : Numbering} (hc : c.Sound) {ss : List Shape} (hss : ss.Nodup)
    (hnew : ∀ s ∈ ss, c.numberOf? s = none) : (c.pushAll ss).Sound := by
  induction ss generalizing c with
  | nil => exact hc
  | cons s ss ih =>
    obtain ⟨hs, hss⟩ := List.nodup_cons.mp hss
    refine ih (hc.push (hnew s List.mem_cons_self)) hss ?_
    intro t ht
    have hts : t ≠ s := fun he => hs (he ▸ ht)
    rw [numberOf?_push, if_neg hts]
    exact hnew t (List.mem_cons_of_mem _ ht)

/-- The numbers from the old size on stand for the pushed shapes, in their order. -/
theorem Sound.shapeOf?_pushAll {c : Numbering} (hc : c.Sound) {ss : List Shape} (hss : ss.Nodup)
    (hnew : ∀ s ∈ ss, c.numberOf? s = none) (m : Nat) :
    (c.pushAll ss).shapeOf? m = if m < c.size then c.shapeOf? m else ss[m - c.size]? := by
  have hentries (s : Shape) : (s, m) ∈ (c.pushAll ss).entries ↔
      (c.size ≤ m ∧ ss[m - c.size]? = some s) ∨ (s, m) ∈ c.entries := by
    rw [pushAll_eq, List.mem_append, List.mem_reverse, List.mk_mem_zipIdx_iff_le_and_getElem?_sub,
      hc.next_eq_size]
  have hused {s : Shape} (h : (s, m) ∈ c.entries) : m < c.size := by
    rw [← hc.isSome_shapeOf?_iff, hc.shapeOf?_eq_some_iff.mpr h]
    rfl
  ext s
  rw [(hc.pushAll hss hnew).shapeOf?_eq_some_iff, hentries]
  split
  · next hm =>
    rw [hc.shapeOf?_eq_some_iff]
    exact ⟨fun h => h.resolve_left fun h => absurd h.1 (Nat.not_le.mpr hm), Or.inr⟩
  · next hm =>
    constructor
    · rintro (h | h)
      · exact h.2
      · exact absurd (hused h) hm
    · exact fun h => Or.inl ⟨Nat.not_lt.mp hm, h⟩

/-! ### A whole list -/

/-- Whether the new shapes of a list fit, all of them. Without any there is nothing to fit in. -/
def Fits (c : Numbering) (ss : List Shape) : Prop :=
  c.fresh ss ≠ [] → (c.size + (c.fresh ss).length) * c.shapeBytes ≤ c.limit

theorem hasRoom_iff {c : Numbering} (hlimit : c.limit < maxWord) :
    c.hasRoom = true ↔ (c.size + 1) * c.shapeBytes ≤ c.limit := by
  rw [hasRoom, decide_eq_true_iff]
  omega

theorem fits_cons_of_known {c : Numbering} {s : Shape} {n : Nat} (h : c.numberOf? s = some n)
    (ss : List Shape) : c.Fits (s :: ss) ↔ c.Fits ss := by
  rw [Fits, Fits, fresh_cons_of_known h]

/-- The bytes grow with every new shape, so if the last one fits then every one before it has fitted. -/
theorem fits_cons_of_new {c : Numbering} (hlimit : c.limit < maxWord) {s : Shape}
    (h : c.numberOf? s = none) (ss : List Shape) :
    c.Fits (s :: ss) ↔ c.hasRoom = true ∧ (c.push s).Fits ss := by
  have hbytes : (c.size + 1) * c.shapeBytes ≤
      (c.size + ((c.push s).fresh ss).length + 1) * c.shapeBytes :=
    Nat.mul_le_mul_right _ (by omega)
  rw [hasRoom_iff hlimit, Fits, Fits, fresh_cons_of_new h, List.length_cons, ← Nat.add_assoc]
  have hpush : ((c.push s).size + ((c.push s).fresh ss).length) * (c.push s).shapeBytes =
      (c.size + ((c.push s).fresh ss).length + 1) * c.shapeBytes := by
    rw [size_push, Nat.add_right_comm]
    rfl
  rw [hpush]
  constructor
  · intro hfits
    have hall := hfits (List.cons_ne_nil _ _)
    exact ⟨Nat.le_trans hbytes hall, fun _ => hall⟩
  · rintro ⟨hfirst, hrest⟩ _
    by_cases hnil : (c.push s).fresh ss = []
    · rw [hnil]
      exact hfirst
    · exact hrest hnil

/-- A list whose new shapes fit gets numbers, and the new shapes are added; any other list drops the
table, however many of its shapes have been numbered by then. -/
theorem assignAll_cases {c : Numbering} (hlimit : c.limit < maxWord) (ss : List Shape) :
    (c.Fits ss ∧ ∃ ns, c.assignAll ss = (some ns, c.pushAll (c.fresh ss))) ∨
      (¬ c.Fits ss ∧ c.assignAll ss = (none, c.clear)) := by
  induction ss generalizing c with
  | nil => exact Or.inl ⟨fun h => absurd rfl h, [], rfl⟩
  | cons s ss ih =>
    rcases c.assign_cases s with ⟨n, hs, h⟩ | ⟨hs, hroom, h⟩ | ⟨hs, hroom, h⟩
    · rw [fits_cons_of_known hs, fresh_cons_of_known hs, assignAll_cons_some h]
      rcases ih hlimit with ⟨hfits, ns, hrest⟩ | ⟨hfits, hrest⟩
      · exact Or.inl ⟨hfits, n :: ns, by rw [hrest]; rfl⟩
      · exact Or.inr ⟨hfits, by rw [hrest]; rfl⟩
    · rw [fits_cons_of_new hlimit hs, fresh_cons_of_new hs, assignAll_cons_some h]
      rcases ih (c := c.push s) hlimit with ⟨hfits, ns, hrest⟩ | ⟨hfits, hrest⟩
      · exact Or.inl ⟨⟨hroom, hfits⟩, c.next :: ns, by rw [hrest]; rfl⟩
      · exact Or.inr ⟨fun h => hfits h.2, by rw [hrest]; rfl⟩
    · rw [fits_cons_of_new hlimit hs, assignAll_cons_none h]
      refine Or.inr ⟨?_, rfl⟩
      rintro ⟨h, _⟩
      rw [hroom] at h
      cases h

theorem resolve_cases {c : Numbering} (hlimit : c.limit < maxWord) (ss : List Shape) :
    (c.Fits ss ∧ ∃ ns, c.resolve ss = (some ⟨ns, c.generation⟩, c.pushAll (c.fresh ss))) ∨
      (¬ c.Fits ss ∧ c.resolve ss = (none, { c.clear with overflows := c.overflows + 1 })) := by
  rcases assignAll_cases hlimit ss with ⟨hfits, ns, h⟩ | ⟨hfits, h⟩
  · refine Or.inl ⟨hfits, ns, ?_⟩
    have hgeneration : (c.pushAll (c.fresh ss)).generation = c.generation := by rw [pushAll_eq]
    rw [resolve, h]
    simp only [hgeneration]
  · exact Or.inr ⟨hfits, by rw [resolve, h]; rfl⟩

/-- The number of a shape of the list once its new shapes have been added. -/
theorem Sound.numberOf?_pushAll_fresh {c : Numbering} (hc : c.Sound) {ss : List Shape} {s : Shape}
    (hs : s ∈ ss) : (c.pushAll (c.fresh ss)).numberOf? s =
      some ((c.numberOf? s).getD (c.size + (c.fresh ss).idxOf s)) := by
  rw [numberOf?_pushAll (c.nodup_fresh ss), hc.next_eq_size]
  cases h : c.numberOf? s with
  | none => rw [if_pos (mem_fresh.mpr ⟨hs, h⟩), Option.getD_none]
  | some n =>
    rw [if_neg, Option.getD_some]
    intro hmem
    rw [(mem_fresh.mp hmem).2] at h
    cases h

theorem Sound.numbers_of_resolve {c : Numbering} (hc : c.Sound) {ss : List Shape} {r : Numbers}
    (h : c.resolve ss = (some r, c.pushAll (c.fresh ss))) :
    r.numbers = ss.map fun s => (c.numberOf? s).getD (c.size + (c.fresh ss).idxOf s) := by
  have hmap : ss.map (c.pushAll (c.fresh ss)).numberOf? =
      (ss.map fun s => (c.numberOf? s).getD (c.size + (c.fresh ss).idxOf s)).map some := by
    rw [List.map_map]
    exact List.map_congr_left fun s hs => hc.numberOf?_pushAll_fresh hs
  rw [(resolve_some h).2.2] at hmap
  exact (List.map_inj_right fun _ _ => Option.some.inj).mp hmap

/-- In every table that a run leads to, the resolution of a list comes to nothing exactly if the list has
new shapes and the table with all of them would exceed the limit. Then all is dropped and a new
generation begins. Otherwise known shapes keep their numbers, the new ones get those from the size of
the table on in the order of their first occurrence, and nothing else changes. -/
theorem resolve_closed_form (limit shapeBytes : Nat) (actions : List Action) (ss : List Shape)
    (hlimit : ((empty limit shapeBytes).run actions).limit < maxWord) :
    let c := (empty limit shapeBytes).run actions
    let fresh := c.fresh ss
    let d := (c.resolve ss).2
    (fresh.Pairwise fun s t => ss.idxOf s < ss.idxOf t) ∧
      ((c.resolve ss).1 = none ↔
        0 < fresh.length ∧ c.limit < (c.size + fresh.length) * c.shapeBytes) ∧
      ((c.resolve ss).1 = none → d = { c with
        entries := [], next := 0, generation := c.generation + 1, overflows := c.overflows + 1 }) ∧
      ∀ r, (c.resolve ss).1 = some r →
        r = ⟨ss.map fun s => (c.numberOf? s).getD (c.size + fresh.idxOf s), c.generation⟩ ∧
          (∀ s, d.numberOf? s =
            if s ∈ fresh then some (c.size + fresh.idxOf s) else c.numberOf? s) ∧
          (∀ m, d.shapeOf? m = if m < c.size then c.shapeOf? m else fresh[m - c.size]?) ∧
          d.size = c.size + fresh.length ∧
          d = { c with entries := d.entries, next := c.size + fresh.length } := by
  intro c fresh d
  have hc : c.Sound := (sound_empty limit shapeBytes).run actions
  have hnew : ∀ s ∈ fresh, c.numberOf? s = none := fun s hs => (mem_fresh.mp hs).2
  have hfits : ¬ c.Fits ss ↔ 0 < fresh.length ∧ c.limit < (c.size + fresh.length) * c.shapeBytes := by
    rw [Fits, Classical.not_imp, Nat.not_le, List.length_pos_iff]
  refine ⟨c.fresh_pairwise ss, ?_⟩
  rw [← hfits]
  rcases resolve_cases hlimit ss with ⟨hyes, ns, h⟩ | ⟨hno, h⟩
  · have hd : d = c.pushAll fresh := congrArg Prod.snd h
    have hsome : (some ⟨ns, c.generation⟩ : Option Numbers) ≠ none := Option.some_ne_none _
    rw [h]
    refine ⟨⟨fun hnone => absurd hnone hsome, fun hnot => absurd hyes hnot⟩,
      fun hnone => absurd hnone hsome, ?_⟩
    rintro r ⟨⟩
    refine ⟨?_, ?_, ?_, ?_, ?_⟩
    · rw [← hc.numbers_of_resolve h]
    · intro s
      rw [hd, numberOf?_pushAll (c.nodup_fresh ss), hc.next_eq_size]
    · intro m
      rw [hd, hc.shapeOf?_pushAll (c.nodup_fresh ss) hnew]
    · rw [hd, size_pushAll]
    · rw [hd, pushAll_eq, hc.next_eq_size]
  · rw [h]
    refine ⟨⟨fun _ => hno, fun _ => rfl⟩, fun _ => congrArg Prod.snd h, ?_⟩
    intro r hr
    cases hr

/- The lowered limit has room for four shapes. The first list repeats one of its two new shapes and mixes
them with the two known ones, and fits exactly; the second has one new shape more. -/
theorem resolve_closed_form_at_the_limit :
    let a : Shape := .node .scan "1:1:orders" []
    let b : Shape := .node .filter "$0" [a]
    let x : Shape := .node .union "ALL" [a, b]
    let y : Shape := .node .union "ALL" [b, a]
    let z : Shape := .node .union "DISTINCT" [a, a]
    let c := (empty 1000 16).run [.resolve [b, a], .setLimit 64]
    let ss := [y, a, y, x, b]
    let ts := [y, a, y, x, z]
    c.limit < maxWord ∧ (c.size, c.fresh ss, c.fresh ts) = (2, [y, x], [y, x, z]) ∧
      (c.resolve ss).1 = some ⟨[2, 1, 2, 3, 0], 0⟩ ∧
      (∀ m, (c.resolve ss).2.shapeOf? m = if m < 2 then c.shapeOf? m else [y, x][m - 2]?) ∧
      (c.resolve ts).1 = none ∧
      (c.resolve ts).2 = { c with entries := [], next := 0, generation := 1, overflows := 1 } := by
  intro a b x y z c ss ts
  have hlimit : c.limit < maxWord := by decide +kernel +revert
  have hvalues : (c.size, c.fresh ss, c.fresh ts) = (2, [y, x], [y, x, z]) := by
    decide +kernel +revert
  have hfull : 0 < [y, x, z].length ∧ c.limit < (2 + [y, x, z].length) * c.shapeBytes := by
    decide +kernel +revert
  have hgiven : (c.resolve ss).1 = some ⟨[2, 1, 2, 3, 0], 0⟩ := by decide +kernel +revert
  obtain ⟨hsize, hfresh⟩ := Prod.mk.inj hvalues
  obtain ⟨hss, hts⟩ := Prod.mk.inj hfresh
  have hboth (us : List Shape) :=
    resolve_closed_form 1000 16 [.resolve [b, a], .setLimit 64] us hlimit
  obtain ⟨_, _, _, hsome⟩ := hboth ss
  obtain ⟨_, hnone, hdropped, _⟩ := hboth ts
  have hlookup := (hsome _ hgiven).2.2.1
  have hover : (c.resolve ts).1 = none := by
    refine hnone.mpr ?_
    show 0 < (c.fresh ts).length ∧ c.limit < (c.size + (c.fresh ts).length) * c.shapeBytes
    rw [hts, hsize]
    exact hfull
  refine ⟨hlimit, hvalues, hgiven, ?_, hover, hdropped hover⟩
  intro m
  rw [← hss, ← hsize]
  exact hlookup m

end PlanReuse.Numbering
