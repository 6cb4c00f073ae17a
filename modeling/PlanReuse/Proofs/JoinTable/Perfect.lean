import PlanReuse.Proofs.JoinTable.Words

/-!
# One-to-one perfect tables

A perfect table whose keys are all different finds the row of every key, and no row for anything else. The
kind of a table is a matter of the distance between its keys alone.
-/

namespace PlanReuse.JoinTable

variable {key : Option ArtifactKey} {device : DeviceId} {low high : Int} {range : Nat} {column : List Int}

/-! ### Probing -/

section

variable {slots : Array Int} {value : Int}

theorem probe_of_slot (h : low ≤ value ∧ value ≤ high) {row : Int}
    (hslot : slots[bucket low value]? = some row) :
    probe ⟨.perfect low high, .oneToOne, key, device, range, slots⟩ value =
      if row = emptySlot then .absent else .row row := by
  rw [bucket] at hslot
  simp only [probe, if_pos h, hslot]

theorem probe_outside (h : ¬ (low ≤ value ∧ value ≤ high)) :
    probe ⟨.perfect low high, .oneToOne, key, device, range, slots⟩ value = .absent := by
  simp only [probe, if_neg h]

end

/-- The one-to-one table of different keys tells the row of each key and of nothing else. -/
theorem probe_singleTable {v : Int} {vs : List Int} (hnodup : (v :: vs).Nodup) (value row : Int) :
    (singleTable key device v vs).probe value = .row row ↔
      ∃ i : Nat, (v :: vs)[i]? = some value ∧ row = i := by
  have hinside := inside_span v vs
  have hbuckets := hinside.nodup_map_bucket.mpr hnodup
  have hplaced {i : Nat} (hi : (v :: vs)[i]? = some value) :
      (singleTable key device v vs).probe value = .row i := by
    have hmem := List.mem_of_getElem? hi
    have hfits : bucket (least v vs) value < (Array.replicate (span v vs) emptySlot).size := by
      rw [Array.size_replicate]
      exact (hinside value hmem).2
    have hslot := getElem?_placeSingle hbuckets hi hfits 0
    rw [Nat.zero_add] at hslot
    rw [singleTable, probe_of_slot ⟨least_le hmem, le_greatest hmem⟩ hslot, if_neg]
    rw [emptySlot]
    omega
  constructor
  · intro hrow
    by_cases hmem : value ∈ v :: vs
    · obtain ⟨i, hi⟩ := List.mem_iff_getElem?.mp hmem
      rw [hplaced hi] at hrow
      exact ⟨i, hi, (Probe.row.inj hrow).symm⟩
    · rw [singleTable] at hrow
      by_cases hvalue : least v vs ≤ value ∧ value ≤ greatest v vs
      · -- The value has a slot, but no key of the column belongs to it.
        have hfree : bucket (least v vs) value ∉ (v :: vs).map (bucket (least v vs)) := by
          intro h
          obtain ⟨w, hw, hsame⟩ := List.mem_map.mp h
          exact hmem ((bucket_inj (hinside w hw).1 hvalue.1).mp hsame ▸ hw)
        have hslot := getElem?_placeSingle_of_notMem hfree 0 (Array.replicate (span v vs) emptySlot)
        rw [Array.getElem?_replicate, if_pos (by exact bucket_lt hvalue.1 hvalue.2)] at hslot
        rw [probe_of_slot hvalue hslot, if_pos rfl] at hrow
        cases hrow
      · rw [probe_outside hvalue] at hrow
        cases hrow
  · rintro ⟨i, hi, rfl⟩
    exact hplaced hi

/-! ### Perfect tables -/

section

variable {t : JoinTable}

theorem artifactClass_of_buildPerfect (h : buildPerfect key device column = some t) :
    t.artifactClass = .perfect := by
  obtain ⟨v, vs, _, _, ⟨_, rfl⟩ | ⟨_, rfl⟩⟩ := exists_of_buildPerfect_eq_some h <;> rfl

theorem layout_of_buildPerfect (h : buildPerfect key device column = some t) :
    t.layout = .oneToOne ↔ column.Nodup := by
  obtain ⟨v, vs, _, _, ⟨hnodup, rfl⟩ | ⟨hnodup, rfl⟩⟩ := exists_of_buildPerfect_eq_some h
  · exact iff_of_true rfl hnodup
  · exact iff_of_false JoinLayout.noConfusion hnodup

theorem probe_of_buildPerfect (h : buildPerfect key device column = some t) (hlayout : t.layout = .oneToOne)
    (value row : Int) : t.probe value = .row row ↔ ∃ i : Nat, column[i]? = some value ∧ row = i := by
  obtain ⟨v, vs, rfl, _, ⟨hnodup, rfl⟩ | ⟨_, rfl⟩⟩ := exists_of_buildPerfect_eq_some h
  · exact probe_singleTable hnodup value row
  · cases hlayout

/-- Where the rows can be numbered, a column with a row has a perfect table unless its keys are too far
apart. -/
theorem buildPerfect_eq_none_iff (hrows : column.length ≤ rowLimit) :
    buildPerfect key device column = none ↔ column = [] ∨
      ∃ low high, column.min? = some low ∧ column.max? = some high ∧ 2 ^ 27 < high - low + 1 := by
  cases column with
  | nil => exact iff_of_true rfl (Or.inl rfl)
  | cons v vs =>
    have hfar : (∃ low high, (v :: vs).min? = some low ∧ (v :: vs).max? = some high ∧
        2 ^ 27 < high - low + 1) ↔ rangeLimit < span v vs := by
      rw [min?_eq_least, max?_eq_greatest, rangeLimit, span]
      constructor
      · rintro ⟨_, _, ⟨⟩, ⟨⟩, hfar⟩
        omega
      · intro hfar
        exact ⟨_, _, rfl, rfl, by omega⟩
    rw [hfar, or_iff_right (List.cons_ne_nil v vs)]
    rcases buildPerfect_cases key device v vs with ⟨hlimits, hbuild⟩ | ⟨hspan, _, ⟨_, hbuild⟩ |
      ⟨_, hbuild⟩⟩ <;> rw [hbuild]
    · exact iff_of_true rfl (hlimits.resolve_right (Nat.not_lt.mpr hrows))
    · exact iff_of_false (Option.some_ne_none _) (Nat.not_lt.mpr hspan)
    · exact iff_of_false (Option.some_ne_none _) (Nat.not_lt.mpr hspan)

/-! ### The choice of the kind -/

theorem build_of_buildPerfect (h : buildPerfect key device column = some t) :
    build key device column = some t := by
  obtain ⟨v, vs, rfl, _⟩ := exists_of_buildPerfect_eq_some h
  rw [build, h]
  rfl

/-- A column that has no perfect table gets the baseline table of its keys, each by itself. -/
theorem build_of_buildPerfect_eq_none (hrows : column.length ≤ rowLimit) (hcolumn : column ≠ [])
    (h : buildPerfect key device column = none) : ∃ t, build key device column = some t ∧
      buildBaseline key device (column.map fun v => [v]) = some t ∧ t.kind = .baseline 1 := by
  have hempty : ¬ column.isEmpty = true := fun hnil => hcolumn (List.isEmpty_iff.mp hnil)
  have hlength : (column.map fun v => [v]).length ≤ rowLimit + 1 := by
    rw [List.length_map]
    omega
  rw [build, if_neg hempty, h, buildBaseline, if_pos hlength]
  refine ⟨_, rfl, rfl, ?_⟩
  cases column with
  | nil => exact absurd rfl hcolumn
  | cons v vs => rfl

theorem build_eq_none_iff (hrows : column.length ≤ rowLimit) :
    build key device column = none ↔ column = [] := by
  constructor
  · intro hnone
    by_contra hcolumn
    cases hbuild : buildPerfect key device column with
    | none =>
      obtain ⟨t, ht, _⟩ := build_of_buildPerfect_eq_none hrows hcolumn hbuild
      rw [hnone] at ht
      cases ht
    | some t =>
      rw [build_of_buildPerfect hbuild] at hnone
      cases hnone
  · rintro rfl
    rfl

/-- A column has a table of the perfect kind exactly if it has a perfect table, and this is the one. -/
theorem build_perfect_iff (hrows : column.length ≤ rowLimit) :
    build key device column = some t ∧ t.artifactClass = .perfect ↔
      buildPerfect key device column = some t := by
  constructor
  · rintro ⟨ht, hclass⟩
    cases hbuild : buildPerfect key device column with
    | some u =>
      rw [build_of_buildPerfect hbuild] at ht
      exact ht
    | none =>
      have hcolumn : column ≠ [] := by
        rintro rfl
        cases ht
      obtain ⟨u, hu, _, hkind⟩ := build_of_buildPerfect_eq_none hrows hcolumn hbuild
      rw [ht] at hu
      cases hu
      rw [artifactClass, hkind] at hclass
      cases hclass
  · intro ht
    exact ⟨build_of_buildPerfect ht, artifactClass_of_buildPerfect ht⟩

end

/-- For every column whose rows can be numbered: it has a perfect table unless it is empty or its keys are
too far apart; the table is one-to-one exactly if no two rows have one key, and then a probe tells the row
of each key and of nothing else. Neither building nor probing leaves an array or the words they run on. A
column with a row always has a table, which is the perfect one if there is one, and else the baseline table
of its keys. -/
theorem perfect_table (key : Option ArtifactKey) (device : DeviceId) (column : List Int)
    (hrows : column.length ≤ rowLimit) :
    (buildPerfect key device column = none ↔ column = [] ∨
      ∃ low high, column.min? = some low ∧ column.max? = some high ∧ 2 ^ 27 < high - low + 1) ∧
    Checked.buildPerfect key device column = .ok (buildPerfect key device column) ∧
    (∀ t, buildPerfect key device column = some t → (t.layout = .oneToOne ↔ column.Nodup) ∧
      (t.layout = .oneToOne → ∀ value row, t.probe value = .row row ↔
        ∃ i : Nat, column[i]? = some value ∧ row = i) ∧
      ∀ value, Checked.probe t value = .ok (t.probe value) ∧ t.probe value ≠ .outOfSlots) ∧
    (build key device column = none ↔ column = []) ∧
    (∀ t, build key device column = some t ∧ t.artifactClass = .perfect ↔
      buildPerfect key device column = some t) ∧
    (buildPerfect key device column = none → column ≠ [] → ∃ t, build key device column = some t ∧
      buildBaseline key device (column.map fun v => [v]) = some t ∧ t.kind = .baseline 1) :=
  ⟨buildPerfect_eq_none_iff hrows, Checked.buildPerfect_eq_ok key device column,
    fun _ ht => ⟨layout_of_buildPerfect ht, probe_of_buildPerfect ht, Checked.probe_eq_ok ht⟩,
    build_eq_none_iff hrows, fun _ => build_perfect_iff hrows,
    fun hnone hcolumn => build_of_buildPerfect_eq_none hrows hcolumn hnone⟩

/- Negative keys, different and close together, and keys that are as far apart as words can be. -/
theorem perfect_table_of_far_keys :
    let near : List Int := [-3, 5, -9, 0]
    let far : List Int := [-9223372036854775808, 7, 9223372036854775807]
    (near.length ≤ rowLimit ∧ far.length ≤ rowLimit ∧ near.Nodup) ∧
      (∃ t, buildPerfect none DeviceId.cpu near = some t ∧ t.layout = .oneToOne ∧ t.probe (-9) = .row 2 ∧
        Checked.probe t 4 = .ok (t.probe 4)) ∧
      buildPerfect none DeviceId.cpu far = none ∧
      ∃ u, build none DeviceId.cpu far = some u ∧ u.kind = .baseline 1 := by
  intro near far
  have hnear : near.length ≤ rowLimit := by decide
  have hfar : far.length ≤ rowLimit := by decide
  have hnodup : near.Nodup := by decide
  obtain ⟨hnone, _, hsome, _⟩ := perfect_table none DeviceId.cpu near hnear
  obtain ⟨hnone', _, _, _, _, hbaseline⟩ := perfect_table none DeviceId.cpu far hfar
  refine ⟨⟨hnear, hfar, hnodup⟩, ?_, ?_⟩
  · obtain ⟨t, ht⟩ : ∃ t, buildPerfect none DeviceId.cpu near = some t := by
      refine Option.ne_none_iff_exists'.mp fun h => ?_
      rcases hnone.mp h with hnil | ⟨low, high, hlow, hhigh, hspan⟩
      · exact absurd hnil (List.cons_ne_nil _ _)
      · obtain rfl : -9 = low := Option.some.inj hlow
        obtain rfl : 5 = high := Option.some.inj hhigh
        exact absurd hspan (by decide)
    obtain ⟨hlayout, hprobe, hchecked⟩ := hsome t ht
    have hsingle := hlayout.mpr hnodup
    exact ⟨t, ht, hsingle, (hprobe hsingle (-9) 2).mpr ⟨2, rfl, rfl⟩, (hchecked 4).1⟩
  · have hno : buildPerfect none DeviceId.cpu far = none :=
      hnone'.mpr (Or.inr ⟨-9223372036854775808, 9223372036854775807, rfl, rfl, by decide⟩)
    obtain ⟨u, hu, _, hkind⟩ := hbaseline hno (List.cons_ne_nil _ _)
    exact ⟨hno, u, hu, hkind⟩

end PlanReuse.JoinTable
