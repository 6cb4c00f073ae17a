import Mathlib.Algebra.GroupWithZero.Nat
import Mathlib.Algebra.BigOperators.Group.Finset.Basic
import PlanReuse.JoinTable.Build

/-!
# Counting and placing rows

What the loops over a column leave behind, slot by slot. All of them find the slot of a row by the distance
of its key from the least key, and no two keys are equally far from it.
-/

namespace PlanReuse.JoinTable

variable {low : Int} {range : Nat} {column : List Int}

/-! ### The least and the greatest key -/

theorem least_eq_foldl (m : Int) (vs : List Int) : least m vs = vs.foldl min m := by
  induction vs generalizing m with
  | nil => rfl
  | cons v vs ih => exact ih (min m v)

theorem greatest_eq_foldl (m : Int) (vs : List Int) : greatest m vs = vs.foldl max m := by
  induction vs generalizing m with
  | nil => rfl
  | cons v vs ih => exact ih (max m v)

theorem min?_eq_least (v : Int) (vs : List Int) : (v :: vs).min? = some (least v vs) := by
  rw [List.min?_cons', least_eq_foldl]

theorem max?_eq_greatest (v : Int) (vs : List Int) : (v :: vs).max? = some (greatest v vs) := by
  rw [List.max?_cons', greatest_eq_foldl]

theorem least_le {v w : Int} {vs : List Int} (h : w ∈ v :: vs) : least v vs ≤ w :=
  (List.min?_eq_some_iff.mp (min?_eq_least v vs)).2 w h

theorem le_greatest {v w : Int} {vs : List Int} (h : w ∈ v :: vs) : w ≤ greatest v vs :=
  (List.max?_eq_some_iff.mp (max?_eq_greatest v vs)).2 w h

/-! ### Buckets -/

theorem bucket_lt {high v : Int} (hlow : low ≤ v) (hhigh : v ≤ high) :
    bucket low v < (high - low + 1).toNat := by
  rw [bucket]
  omega

/-- The keys of a column are not below the least one, and each belongs to one of the buckets. -/
def Inside (low : Int) (range : Nat) (column : List Int) : Prop :=
  ∀ v ∈ column, low ≤ v ∧ bucket low v < range

theorem bucket_inj {v w : Int} (hv : low ≤ v) (hw : low ≤ w) : bucket low v = bucket low w ↔ v = w := by
  rw [bucket, bucket]
  omega

theorem Inside.nodup_map_bucket (h : Inside low range column) :
    (column.map (bucket low)).Nodup ↔ column.Nodup := by
  refine ⟨List.Nodup.of_map _, fun hnodup => hnodup.map_on fun v hv w hw hvw => ?_⟩
  exact (bucket_inj (h v hv).1 (h w hw).1).mp hvw

/-! ### Counting -/

theorem getElem?_foldl_count (low : Int) (column : List Int) (counts : Array Nat) (b : Nat) :
    (column.foldl (fun counts v => counts.modify (bucket low v) (· + 1)) counts)[b]? =
      counts[b]?.map (· + (column.map (bucket low)).count b) := by
  induction column generalizing counts with
  | nil =>
    rw [List.foldl_nil, List.map_nil, List.count_nil]
    exact Option.map_id'.symm
  | cons v vs ih =>
    rw [List.foldl_cons, ih, Array.getElem?_modify, List.map_cons, List.count_cons]
    by_cases hb : bucket low v = b
    · rw [if_pos hb, if_pos (beq_iff_eq.mpr hb)]
      cases counts[b]? with
      | none => rfl
      | some n =>
        simp only [Option.map_some]
        congr 1
        omega
    · rw [if_neg hb, if_neg (fun h => hb (beq_iff_eq.mp h)), Nat.add_zero]

/-- A bucket counts the rows whose keys belong to it. -/
theorem toList_countRows (low : Int) (range : Nat) (column : List Int) :
    (countRows low range column).toList =
      (List.range range).map fun b => (column.map (bucket low)).count b := by
  apply List.ext_getElem?
  intro b
  rw [Array.getElem?_toList, countRows, getElem?_foldl_count, Array.getElem?_replicate, List.getElem?_map]
  by_cases hb : b < range
  · rw [if_pos hb, List.getElem?_range hb, Option.map_some, Option.map_some, Nat.zero_add]
  · rw [if_neg hb, List.getElem?_eq_none (by rw [List.length_range]; omega), Option.map_none,
      Option.map_none]

theorem getElem?_countRows (low : Int) (column : List Int) {b : Nat} (h : b < range) :
    (countRows low range column).toList[b]? = some ((column.map (bucket low)).count b) := by
  rw [toList_countRows, List.getElem?_map, List.getElem?_range h, Option.map_some]

theorem size_countRows (low : Int) (range : Nat) (column : List Int) :
    (countRows low range column).size = range := by
  rw [← Array.length_toList, toList_countRows, List.length_map, List.length_range]

/-- If all buckets are counted, then none of them has two rows exactly if no two rows share a bucket. -/
theorem all_countRows_le_one_iff (h : Inside low range column) :
    (countRows low range column).all (· ≤ 1) = true ↔ (column.map (bucket low)).Nodup := by
  rw [← Array.all_toList, toList_countRows, List.nodup_iff_count_le_one, List.all_map, List.all_eq_true]
  constructor
  · intro hall b
    by_cases hb : b ∈ column.map (bucket low)
    · obtain ⟨v, hv, rfl⟩ := List.mem_map.mp hb
      exact of_decide_eq_true (hall _ (List.mem_range.mpr (h v hv).2))
    · rw [List.count_eq_zero.mpr hb]
      exact Nat.zero_le 1
  · intro hcount b _
    exact decide_eq_true (hcount b)

/-- If all buckets are counted, then so are all rows. -/
theorem sum_countRows (h : Inside low range column) :
    (countRows low range column).toList.sum = column.length := by
  have hmem : ∀ b ∈ (column.map (bucket low) : Multiset Nat), b ∈ Finset.range range := by
    intro b hb
    obtain ⟨v, hv, rfl⟩ := List.mem_map.mp hb
    exact Finset.mem_range.mpr (h v hv).2
  have hsum := Multiset.sum_count_eq_card hmem
  rw [Multiset.coe_card, List.length_map] at hsum
  rw [toList_countRows, ← hsum, Finset.sum_eq_multiset_sum]
  simp only [Multiset.coe_count]
  exact (Multiset.sum_coe _).symm

/-! ### Offsets -/

theorem length_offsetsFrom (start : Nat) (counts : List Nat) :
    (offsetsFrom start counts).length = counts.length := by
  induction counts generalizing start with
  | nil => rfl
  | cons c cs ih => rw [offsetsFrom, List.length_cons, ih, List.length_cons]

/-- A stretch begins where all stretches before it end. -/
theorem getElem?_offsetsFrom {start b c : Nat} {counts : List Nat} (h : counts[b]? = some c) :
    (offsetsFrom start counts)[b]? = some (start + (counts.take b).sum) := by
  induction counts generalizing start b with
  | nil => cases h
  | cons n ns ih =>
    cases b with
    | zero => rfl
    | succ b =>
      rw [List.getElem?_cons_succ] at h
      rw [offsetsFrom, List.getElem?_cons_succ, ih h, List.take_succ_cons, List.sum_cons, Nat.add_assoc]

theorem offset_add_le {start b n c : Nat} {counts : List Nat} (hc : counts[b]? = some c)
    (hn : (offsetsFrom start counts)[b]? = some n) : n + c ≤ start + counts.sum := by
  rw [getElem?_offsetsFrom hc] at hn
  cases hn
  obtain ⟨hb, rfl⟩ := List.getElem?_eq_some_iff.mp hc
  have htake := List.sum_take_succ counts b hb
  have hsplit := List.sum_take_add_sum_drop counts (b + 1)
  omega

/-! ### One row to a slot -/

theorem size_placeSingle (low : Int) (row : Nat) (column : List Int) (slots : Array Int) :
    (placeSingle low row column slots).size = slots.size := by
  induction column generalizing row slots with
  | nil => rfl
  | cons v vs ih => rw [placeSingle, ih, Array.size_setIfInBounds]

/-- A slot that no key belongs to is left as it is. -/
theorem getElem?_placeSingle_of_notMem {b : Nat} (h : b ∉ column.map (bucket low)) (row : Nat)
    (slots : Array Int) : (placeSingle low row column slots)[b]? = slots[b]? := by
  induction column generalizing row slots with
  | nil => rfl
  | cons v vs ih =>
    rw [List.map_cons, List.mem_cons, not_or] at h
    rw [placeSingle, ih h.2, Array.getElem?_setIfInBounds_ne (Ne.symm h.1)]

/-- Where no two rows share a bucket, every row stands in the slot of its key. -/
theorem getElem?_placeSingle (hnodup : (column.map (bucket low)).Nodup) {slots : Array Int} {i : Nat}
    {v : Int} (hv : column[i]? = some v) (hslot : bucket low v < slots.size) (row : Nat) :
    (placeSingle low row column slots)[bucket low v]? = some ((row + i : Nat) : Int) := by
  induction column generalizing row slots i with
  | nil => cases hv
  | cons w ws ih =>
    rw [List.map_cons, List.nodup_cons] at hnodup
    rw [placeSingle]
    cases i with
    | zero =>
      cases hv
      rw [getElem?_placeSingle_of_notMem hnodup.1, Array.getElem?_setIfInBounds_self_of_lt hslot,
        Nat.add_zero]
    | succ i =>
      rw [List.getElem?_cons_succ] at hv
      rw [ih hnodup.2 hv (by rw [Array.size_setIfInBounds]; exact hslot), Nat.add_assoc, Nat.add_comm 1]

/-! ### Perfect tables -/

section

variable (key : Option ArtifactKey) (device : DeviceId) (v : Int) (vs : List Int)

/-- The number of buckets from the least to the greatest key of a column. -/
def span : Nat := (greatest v vs - least v vs + 1).toNat

theorem inside_span : Inside (least v vs) (span v vs) (v :: vs) :=
  fun _ hw => ⟨least_le hw, bucket_lt (least_le hw) (le_greatest hw)⟩

/-- The perfect table of a column with one slot for each key. -/
def singleTable : JoinTable :=
  { kind := .perfect (least v vs) (greatest v vs)
    layout := .oneToOne
    key
    device
    entryCount := span v vs
    slots := placeSingle (least v vs) 0 (v :: vs) (Array.replicate (span v vs) emptySlot) }

/-- The perfect table of a column with a stretch of rows for each key. -/
def stretchTable : JoinTable :=
  { kind := .perfect (least v vs) (greatest v vs)
    layout := .oneToMany
    key
    device
    entryCount := span v vs
    slots := oneToManySlots (least v vs) (countRows (least v vs) (span v vs) (v :: vs)) (v :: vs) }

theorem buildPerfect_cons : buildPerfect key device (v :: vs) =
    if span v vs ≤ rangeLimit ∧ (v :: vs).length ≤ rowLimit then
      if (countRows (least v vs) (span v vs) (v :: vs)).all (· ≤ 1) then some (singleTable key device v vs)
      else some (stretchTable key device v vs)
    else none := rfl

/-- All that building a perfect table can come to. -/
theorem buildPerfect_cases :
    ((rangeLimit < span v vs ∨ rowLimit < (v :: vs).length) ∧ buildPerfect key device (v :: vs) = none) ∨
    (span v vs ≤ rangeLimit ∧ (v :: vs).length ≤ rowLimit ∧
      ((v :: vs).Nodup ∧ buildPerfect key device (v :: vs) = some (singleTable key device v vs) ∨
        ¬ (v :: vs).Nodup ∧ buildPerfect key device (v :: vs) = some (stretchTable key device v vs))) := by
  have hinside := inside_span v vs
  by_cases hfits : span v vs ≤ rangeLimit ∧ (v :: vs).length ≤ rowLimit
  · right
    have hall := (all_countRows_le_one_iff hinside).trans hinside.nodup_map_bucket
    refine ⟨hfits.1, hfits.2, ?_⟩
    rw [buildPerfect_cons, if_pos hfits]
    by_cases hnodup : (v :: vs).Nodup
    · exact Or.inl ⟨hnodup, if_pos (hall.mpr hnodup)⟩
    · exact Or.inr ⟨hnodup, if_neg fun h => hnodup (hall.mp h)⟩
  · left
    refine ⟨by omega, ?_⟩
    rw [buildPerfect_cons, if_neg hfits]

end

/-- A perfect table is one of the two that a column with a row can have. -/
theorem exists_of_buildPerfect_eq_some {key : Option ArtifactKey} {device : DeviceId} {t : JoinTable}
    (h : buildPerfect key device column = some t) : ∃ v vs, column = v :: vs ∧ span v vs ≤ rangeLimit ∧
      (column.Nodup ∧ t = singleTable key device v vs ∨
        ¬ column.Nodup ∧ t = stretchTable key device v vs) := by
  cases column with
  | nil => cases h
  | cons v vs =>
    rcases buildPerfect_cases key device v vs with ⟨_, hbuild⟩ | ⟨hspan, _, ⟨hnodup, hbuild⟩ |
      ⟨hnodup, hbuild⟩⟩ <;> rw [hbuild] at h <;> cases h
    · exact ⟨v, vs, rfl, hspan, Or.inl ⟨hnodup, rfl⟩⟩
    · exact ⟨v, vs, rfl, hspan, Or.inr ⟨hnodup, rfl⟩⟩

end PlanReuse.JoinTable
