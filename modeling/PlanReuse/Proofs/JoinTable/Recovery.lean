import PlanReuse.Proofs.JoinTable.Perfect
import PlanReuse.Proofs.JoinTable.Stretches
import PlanReuse.Proofs.JoinTable.Grouping

/-!
# What a table tells of its column

A perfect table tells the key of every row, so it determines its column. A baseline table tells the order
of the rows by their keys and the number of the keys, and nothing more: where the rows of one key end and
those of the next begin is lost as soon as some key has two rows.
-/

namespace PlanReuse.JoinTable

variable {key : Option ArtifactKey} {device : DeviceId} {t u : JoinTable} {xs ys : List Int}

/-! ### Perfect tables -/

/-- The row stands in the slot, or in the stretch, of the key. -/
def Tells (t : JoinTable) (row : Nat) (value : Int) : Prop :=
  ∃ low high, t.kind = .perfect low high ∧ low ≤ value ∧ value ≤ high ∧
    (t.layout = .oneToOne → t.probe value = .row row) ∧
    (t.layout = .oneToMany → (row : Int) ∈ t.stretch (bucket low value))

theorem tells_singleTable {v : Int} {vs : List Int} (hnodup : (v :: vs).Nodup) {row : Nat} {value : Int} :
    Tells (singleTable key device v vs) row value ↔ (v :: vs)[row]? = some value := by
  have hprobe : (singleTable key device v vs).probe value = .row row ↔
      ∃ i : Nat, (v :: vs)[i]? = some value ∧ (row : Int) = i := probe_singleTable hnodup value row
  constructor
  · rintro ⟨_, _, _, _, _, hrow, _⟩
    obtain ⟨i, hi, hrow⟩ := hprobe.mp (hrow rfl)
    rw [Int.ofNat_inj.mp hrow]
    exact hi
  · intro hrow
    have hmem := List.mem_of_getElem? hrow
    exact ⟨_, _, rfl, least_le hmem, le_greatest hmem, fun _ => hprobe.mpr ⟨row, hrow, rfl⟩, nofun⟩

theorem tells_stretchTable {v : Int} {vs : List Int} {row : Nat} {value : Int} :
    Tells (stretchTable key device v vs) row value ↔ (v :: vs)[row]? = some value := by
  have hstretch (hlow : least v vs ≤ value) (hhigh : value ≤ greatest v vs) :
      (row : Int) ∈ (stretchTable key device v vs).stretch (bucket (least v vs) value) ↔
        (v :: vs)[row]? = some value := by
    rw [stretch_stretchTable key device v vs hlow hhigh, List.getElem?_eq_some_iff]
    constructor
    · intro hmem
      obtain ⟨r, hr, hrow⟩ := List.mem_map.mp hmem
      rw [← Int.ofNat_inj.mp hrow]
      obtain ⟨hlt, hvalue⟩ := List.mem_idxsOf_iff_exists_getElem_pos.mp hr
      exact ⟨hlt, eq_of_beq hvalue⟩
    · rintro ⟨hlt, hvalue⟩
      have hr := List.mem_idxsOf_iff_exists_getElem_pos.mpr ⟨hlt, beq_iff_eq.mpr hvalue⟩
      exact List.mem_map_of_mem hr
  constructor
  · rintro ⟨_, _, hkind, hlow, hhigh, _, hrow⟩
    cases hkind
    exact (hstretch hlow hhigh).mp (hrow rfl)
  · intro hrow
    have hmem := List.mem_of_getElem? hrow
    exact ⟨_, _, rfl, least_le hmem, le_greatest hmem, nofun,
      fun _ => (hstretch (least_le hmem) (le_greatest hmem)).mpr hrow⟩

theorem tells_iff (h : buildPerfect key device xs = some t) {row : Nat} {value : Int} :
    t.Tells row value ↔ xs[row]? = some value := by
  obtain ⟨v, vs, rfl, _, ⟨hnodup, rfl⟩ | ⟨_, rfl⟩⟩ := exists_of_buildPerfect_eq_some h
  · exact tells_singleTable hnodup
  · exact tells_stretchTable

/-- No two columns have one perfect table. -/
theorem column_eq_of_buildPerfect (hxs : buildPerfect key device xs = some t)
    (hys : buildPerfect key device ys = some t) : xs = ys := by
  apply List.ext_getElem?
  intro row
  apply Option.ext
  intro value
  rw [← tells_iff hxs, ← tells_iff hys]

/-! ### The table of a column -/

/-- Keys too far apart for a perfect table. -/
def FarApart (column : List Int) : Prop :=
  ∃ low high, column.min? = some low ∧ column.max? = some high ∧ 2 ^ 27 < high - low + 1

/-- The baseline table of a column, field by field. -/
structure IsBaseline (key : Option ArtifactKey) (device : DeviceId) (column : List Int) (t : JoinTable) :
    Prop where
  kind : t.kind = .baseline 1
  key : t.key = key
  device : t.device = device
  slots : t.slots.toList = (rowOrder column).map Int.ofNat
  entryCount : t.entryCount = column.toFinset.card
  layout : t.layout = layoutOf column

theorem singleton_le_iff (a b : Int) : ([a] : List Int) ≤ [b] ↔ a ≤ b := by
  rw [← not_lt, List.cons_lt_cons_iff, ← not_lt]
  simp

theorem buildBaseline_singletons (key : Option ArtifactKey) (device : DeviceId) {v : Int} {vs : List Int}
    (hrows : (v :: vs).length ≤ rowLimit) :
    ∃ t, buildBaseline key device ((v :: vs).map fun w => [w]) = some t ∧
      IsBaseline key device (v :: vs) t := by
  -- Each key by itself is a composite key, in the same order.
  have hinj : Function.Injective fun w : Int => [w] := fun _ _ h => (List.cons.inj h).1
  have hlength : ((v :: vs).map fun w => [w]).length ≤ rowLimit + 1 := by
    rw [List.length_map]
    omega
  obtain ⟨t, ht, hkind, hkey, hdevice, hslots, hcount, hlayout⟩ :=
    buildBaseline_eq_some key device hlength
  refine ⟨t, ht, hkind, hkey, hdevice, ?_, ?_, ?_⟩
  · rw [hslots, rowOrder_map singleton_le_iff]
  · rw [hcount, ← Finset.card_image_of_injective (v :: vs).toFinset hinj]
    congr 1
    ext k
    simp only [List.mem_toFinset, List.mem_map, Finset.mem_image]
  · simp only [hlayout, layoutOf, List.nodup_map_iff hinj]

/-- The table of a column is its perfect table, or its baseline table if the keys are too far apart. -/
theorem build_cases (key : Option ArtifactKey) (device : DeviceId) (hcolumn : xs ≠ [])
    (hrows : xs.length ≤ rowLimit) :
    (¬ FarApart xs ∧ ∃ t, buildPerfect key device xs = some t ∧ build key device xs = some t) ∨
    (FarApart xs ∧ ∃ t, build key device xs = some t ∧ IsBaseline key device xs t) := by
  have hnone : buildPerfect key device xs = none ↔ FarApart xs :=
    (buildPerfect_eq_none_iff hrows).trans (or_iff_right hcolumn)
  cases hbuild : buildPerfect key device xs with
  | some t =>
    rw [hbuild] at hnone
    exact Or.inl ⟨fun hfar => Option.some_ne_none t (hnone.mpr hfar), t, rfl, build_of_buildPerfect hbuild⟩
  | none =>
    obtain ⟨t, ht, hbaseline, _⟩ := build_of_buildPerfect_eq_none hrows hcolumn hbuild
    cases xs with
    | nil => exact absurd rfl hcolumn
    | cons v vs =>
      obtain ⟨u, hu, hfields⟩ := buildBaseline_singletons key device hrows
      rw [hbaseline] at hu
      cases hu
      exact Or.inr ⟨hnone.mp hbuild, t, ht, hfields⟩

/-! ### Equal tables -/

theorem same_iff_eq (h : t.artifactClass ≠ .overlaps) : t.same u = true ↔ t = u := by
  obtain ⟨kind, layout, key, device, entryCount, slots⟩ := t
  obtain ⟨kind', layout', key', device', entryCount', slots'⟩ := u
  have hkind : sameKind kind kind' = true ↔ kind = kind' := by
    cases kind with
    | overlaps => exact absurd rfl h
    | _ => exact decide_eq_true_iff
  simp only [same, Bool.and_eq_true, hkind, decide_eq_true_eq, beq_iff_eq, JoinTable.mk.injEq, and_assoc]

theorem layoutOf_eq_of_card_eq (hlength : xs.length = ys.length)
    (hcard : xs.toFinset.card = ys.toFinset.card) : layoutOf xs = layoutOf ys := by
  have hnodup (l : List Int) : l.Nodup ↔ l.toFinset.card = l.length :=
    (Multiset.toFinset_card_eq_card_iff_nodup (m := (l : Multiset Int))).symm
  simp only [layoutOf, hnodup, hlength, hcard]

theorem length_eq_of_rowOrder_eq (h : rowOrder xs = rowOrder ys) : xs.length = ys.length := by
  have hxs := (rowOrder_perm xs).length_eq
  have hys := (rowOrder_perm ys).length_eq
  rw [List.length_range] at hxs hys
  rw [← hxs, ← hys, h]

theorem IsBaseline.eq_iff (ht : IsBaseline key device xs t) (hu : IsBaseline key device ys u) :
    t = u ↔ rowOrder xs = rowOrder ys ∧ xs.toFinset.card = ys.toFinset.card := by
  constructor
  · rintro rfl
    have hslots := ht.slots.symm.trans hu.slots
    exact ⟨List.map_injective_iff.mpr (fun _ _ => Int.ofNat.inj) hslots,
      ht.entryCount.symm.trans hu.entryCount⟩
  · rintro ⟨horder, hcard⟩
    obtain ⟨hkind, hkey, hdevice, hslots, hcount, hlayout⟩ := ht
    obtain ⟨hkind', hkey', hdevice', hslots', hcount', hlayout'⟩ := hu
    have hsame : t.slots = u.slots := by
      rw [← Array.toList_inj, hslots, hslots', horder]
    obtain ⟨kind, layout, key, device, entryCount, slots⟩ := t
    obtain ⟨kind', layout', key', device', entryCount', slots'⟩ := u
    simp only at hkind hkey hdevice hcount hlayout hkind' hkey' hdevice' hcount' hlayout' hsame
    rw [hkind, hkind', hkey, hkey', hdevice, hdevice', hcount, hcount', hlayout, hlayout', hsame, hcard,
      layoutOf_eq_of_card_eq (length_eq_of_rowOrder_eq horder) hcard]

/-! ### Rows of one key -/

/-- Two rows have one key in the first column exactly if they have one key in the second. -/
def SameGroups (xs ys : List Int) : Prop := ∀ i j : Nat, xs[i]? = xs[j]? ↔ ys[i]? = ys[j]?

theorem getElem?_eq_iff_of_nodup (h : xs.Nodup) (i j : Nat) :
    xs[i]? = xs[j]? ↔ i = j ∨ xs.length ≤ i ∧ xs.length ≤ j := by
  rcases Nat.lt_or_ge i xs.length with hi | hi
  · rw [List.getElem?_inj hi h, or_iff_left fun hle => Nat.not_lt.mpr hle.1 hi]
  · rw [List.getElem?_eq_none hi, eq_comm, List.getElem?_eq_none_iff]
    constructor
    · exact fun hj => Or.inr ⟨hi, hj⟩
    · rintro (rfl | ⟨_, hj⟩)
      · exact hi
      · exact hj

theorem sameGroups_of_nodup (hlength : xs.length = ys.length) (hxs : xs.Nodup) (hys : ys.Nodup) :
    SameGroups xs ys := by
  intro i j
  rw [getElem?_eq_iff_of_nodup hxs, getElem?_eq_iff_of_nodup hys, hlength]

/-! ### Equal tables of two columns -/

/-- Columns with one baseline table: both have keys far apart, their rows are in one order, and they have
equally many keys. -/
def BaselineAlike (xs ys : List Int) : Prop :=
  FarApart xs ∧ FarApart ys ∧ rowOrder xs = rowOrder ys ∧ xs.toFinset.card = ys.toFinset.card

theorem IsBaseline.artifactClass_eq (h : IsBaseline key device xs t) : t.artifactClass = .baseline := by
  rw [artifactClass, h.kind]

theorem IsBaseline.ne_of_buildPerfect (h : IsBaseline key device xs t)
    (hu : buildPerfect key device ys = some u) : t ≠ u := by
  rintro rfl
  have hclass := artifactClass_of_buildPerfect hu
  rw [h.artifactClass_eq] at hclass
  cases hclass

theorem build_eq_iff (hxs : xs ≠ []) (hys : ys ≠ []) (hxrows : xs.length ≤ rowLimit)
    (hyrows : ys.length ≤ rowLimit) (ht : build key device xs = some t)
    (hu : build key device ys = some u) : t = u ↔ xs = ys ∨ BaselineAlike xs ys := by
  have hsame : xs = ys → t = u := by
    rintro rfl
    exact Option.some.inj (ht.symm.trans hu)
  rcases build_cases key device hxs hxrows with ⟨hnear, t', hperfect, ht'⟩ | ⟨hfar, t', ht', hbaseline⟩ <;>
    rw [ht] at ht' <;> cases ht' <;>
    rcases build_cases key device hys hyrows with
      ⟨hnear', u', hperfect', hu'⟩ | ⟨hfar', u', hu', hbaseline'⟩ <;> rw [hu] at hu' <;> cases hu'
  -- One case for each pair of kinds: only tables of one kind can be equal.
  · rw [or_iff_left fun h : BaselineAlike xs ys => hnear h.1]
    exact ⟨fun htu => column_eq_of_buildPerfect hperfect (htu ▸ hperfect'), hsame⟩
  · rw [or_iff_left fun h : BaselineAlike xs ys => hnear h.1]
    exact ⟨fun htu => absurd htu.symm (hbaseline'.ne_of_buildPerfect hperfect), hsame⟩
  · rw [or_iff_left fun h : BaselineAlike xs ys => hnear' h.2.1]
    exact ⟨fun htu => absurd htu (hbaseline.ne_of_buildPerfect hperfect'), hsame⟩
  · have hiff := hbaseline.eq_iff hbaseline'
    constructor
    · exact fun htu => Or.inr ⟨hfar, hfar', hiff.mp htu⟩
    · rintro (hxy | ⟨_, _, halike⟩)
      · exact hsame hxy
      · exact hiff.mpr halike

theorem artifactClass_ne_overlaps (hxs : xs ≠ []) (hxrows : xs.length ≤ rowLimit)
    (ht : build key device xs = some t) : t.artifactClass ≠ .overlaps := by
  rcases build_cases key device hxs hxrows with ⟨_, t', hperfect, ht'⟩ | ⟨_, t', ht', hbaseline⟩ <;>
    rw [ht] at ht' <;> cases ht'
  · rw [artifactClass_of_buildPerfect hperfect]
    exact nofun
  · rw [hbaseline.artifactClass_eq]
    exact nofun

theorem sameGroups_of_baselineAlike (hxs : xs ≠ []) (hxrows : xs.length ≤ rowLimit)
    (ht : build key device xs = some t) (halike : BaselineAlike xs ys)
    (h : t.artifactClass = .perfect ∨ t.layout = .oneToOne) : SameGroups xs ys := by
  obtain ⟨hfar, _, horder, hcard⟩ := halike
  have hlength := length_eq_of_rowOrder_eq horder
  rcases build_cases key device hxs hxrows with ⟨hnear, _⟩ | ⟨_, t', ht', hbaseline⟩
  · exact absurd hfar hnear
  · rw [ht] at ht'
    cases ht'
    rcases h with hclass | hlayout
    · rw [hbaseline.artifactClass_eq] at hclass
      cases hclass
    · rw [hbaseline.layout] at hlayout
      have hlayout' : layoutOf ys = .oneToOne := layoutOf_eq_of_card_eq hlength hcard ▸ hlayout
      exact sameGroups_of_nodup hlength ((layoutOf_eq_oneToOne_iff xs).mp hlayout)
        ((layoutOf_eq_oneToOne_iff ys).mp hlayout')

/-- Every two columns with rows that can be numbered have tables, and these are equal exactly if the columns
are, or if both have keys too far apart and equally many of them, and the rows are in one order. Equal tables
are of columns with equally many rows; a table that is perfect or one-to-one tells which rows have one key,
and a baseline table of the other layout does not tell more than the order and the number. -/
theorem same_tables_iff (key : Option ArtifactKey) (device : DeviceId) {xs ys : List Int} (hxs : xs ≠ [])
    (hys : ys ≠ []) (hxrows : xs.length ≤ rowLimit) (hyrows : ys.length ≤ rowLimit) :
    ∃ t u, build key device xs = some t ∧ build key device ys = some u ∧
      (t.same u = true ↔ xs = ys ∨ BaselineAlike xs ys) ∧
      (t.same u = true → xs.length = ys.length) ∧
      (t.same u = true → t.artifactClass = .perfect ∨ t.layout = .oneToOne → SameGroups xs ys) := by
  obtain ⟨t, ht⟩ : ∃ t, build key device xs = some t :=
    Option.ne_none_iff_exists'.mp fun h => hxs ((build_eq_none_iff hxrows).mp h)
  obtain ⟨u, hu⟩ : ∃ u, build key device ys = some u :=
    Option.ne_none_iff_exists'.mp fun h => hys ((build_eq_none_iff hyrows).mp h)
  have hsame : t.same u = true ↔ xs = ys ∨ BaselineAlike xs ys :=
    (same_iff_eq (artifactClass_ne_overlaps hxs hxrows ht)).trans
      (build_eq_iff hxs hys hxrows hyrows ht hu)
  refine ⟨t, u, ht, hu, hsame, fun h => ?_, fun h hkind => ?_⟩ <;>
    rcases hsame.mp h with rfl | halike
  · rfl
  · exact length_eq_of_rowOrder_eq halike.2.2.1
  · exact fun _ _ => Iff.rfl
  · exact sameGroups_of_baselineAlike hxs hxrows ht halike hkind

/- Different keys, in one order in both columns and never close together. -/
theorem same_tables_iff_of_far_keys :
    let xs : List Int := [7, -9223372036854775808, 9223372036854775807]
    let ys : List Int := [0, -1, 1000000000000]
    (xs ≠ [] ∧ ys ≠ [] ∧ xs.length ≤ rowLimit ∧ ys.length ≤ rowLimit) ∧
      ∃ t u, build none DeviceId.cpu xs = some t ∧ build none DeviceId.cpu ys = some u ∧
        t.same u = true ∧ t.layout = .oneToOne ∧ SameGroups xs ys := by
  intro xs ys
  have hxrows : xs.length ≤ rowLimit := by decide
  have hyrows : ys.length ≤ rowLimit := by decide
  have hxs : xs ≠ [] := List.cons_ne_nil _ _
  have hys : ys ≠ [] := List.cons_ne_nil _ _
  have hxorder : rowOrder xs = [1, 0, 2] := by
    let pairs : List (Int × Nat) := [(-9223372036854775808, 1), (7, 0), (9223372036854775807, 2)]
    have hperm : pairs.Perm xs.zipIdx := by decide
    have hsorted : pairs.Pairwise PairBefore := by decide
    exact rowOrder_eq_map hperm hsorted
  have hyorder : rowOrder ys = [1, 0, 2] := by
    let pairs : List (Int × Nat) := [(-1, 1), (0, 0), (1000000000000, 2)]
    have hperm : pairs.Perm ys.zipIdx := by decide
    have hsorted : pairs.Pairwise PairBefore := by decide
    exact rowOrder_eq_map hperm hsorted
  have halike : BaselineAlike xs ys :=
    ⟨⟨_, _, rfl, rfl, by decide⟩, ⟨_, _, rfl, rfl, by decide⟩, hxorder.trans hyorder.symm, by decide⟩
  obtain ⟨t, u, ht, hu, hsame, _, hgroups⟩ := same_tables_iff none DeviceId.cpu hxs hys hxrows hyrows
  have heq := hsame.mpr (Or.inr halike)
  have hlayout : t.layout = .oneToOne := by
    rcases build_cases none DeviceId.cpu hxs hxrows with ⟨hnear, _⟩ | ⟨_, t', ht', hbaseline⟩
    · exact absurd halike.1 hnear
    · rw [ht] at ht'
      cases ht'
      rw [hbaseline.layout]
      decide
  exact ⟨⟨hxs, hys, hxrows, hyrows⟩, t, u, ht, hu, heq, hlayout, hgroups heq (Or.inr hlayout)⟩

/- Three rows with two keys far apart. The middle row has the key of the first one in one column and that of
the last one in the other; both columns have the same table. -/
theorem groups_lost_in_baseline_table :
    let xs : List Int := [0, 0, 1000000000000]
    let ys : List Int := [0, 1000000000000, 1000000000000]
    (xs ≠ [] ∧ ys ≠ [] ∧ xs.length ≤ rowLimit ∧ ys.length ≤ rowLimit) ∧
      ∃ t u, build none DeviceId.cpu xs = some t ∧ build none DeviceId.cpu ys = some u ∧
        t.same u = true ∧ ¬ SameGroups xs ys := by
  intro xs ys
  refine ⟨by decide, _, _, rfl, rfl, by decide, fun h => ?_⟩
  have hmiddle : ys[0]? = ys[1]? := (h 0 1).mp rfl
  exact absurd hmiddle (by decide)

end PlanReuse.JoinTable
