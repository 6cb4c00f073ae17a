import Mathlib.Data.Finset.Card
import Mathlib.Data.List.Lex
import PlanReuse.JoinTable.Build

/-!
# Baseline tables

Every row goes into the group of its key, and the groups stand in the order of their keys. Read one after
another they hold the rows in the order of the keys, and rows of one key in the order they came in.
-/

namespace PlanReuse.JoinTable

/-! ### Rows in the order of their keys -/

theorem zipIdx_pairwise {κ : Type} (keys : List κ) : keys.zipIdx.Pairwise fun x y => x.2 < y.2 := by
  have hrange : (keys.zipIdx.map Prod.snd).Pairwise (· < ·) := by
    rw [List.zipIdx_map_snd]
    exact List.pairwise_lt_range'
  exact List.pairwise_map.mp hrange

section

variable {κ : Type} [LinearOrder κ]

/-- The order of the keys, whatever the rows. -/
def keyLe (x y : κ × Nat) : Bool := decide (x.1 ≤ y.1)

/-- The numbers of the rows, sorted by the keys of the rows; the sort is stable. -/
def rowOrder (keys : List κ) : List Nat := (keys.zipIdx.mergeSort keyLe).map Prod.snd

/-- A row has a lesser key than another one, or the same key and a lesser number. -/
def RowBefore (keys : List κ) (i j : Nat) : Prop :=
  ∃ k l, keys[i]? = some k ∧ keys[j]? = some l ∧ (k < l ∨ k = l ∧ i < j)

/-- The same of keys that come with their rows. -/
def PairBefore (x y : κ × Nat) : Prop := x.1 < y.1 ∨ x.1 = y.1 ∧ x.2 < y.2

instance (x y : κ × Nat) : Decidable (PairBefore x y) :=
  inferInstanceAs (Decidable (x.1 < y.1 ∨ x.1 = y.1 ∧ x.2 < y.2))

theorem keyLe_trans (x y z : κ × Nat) (hxy : keyLe x y = true) (hyz : keyLe y z = true) :
    keyLe x z = true :=
  decide_eq_true ((of_decide_eq_true hxy).trans (of_decide_eq_true hyz))

theorem keyLe_total (x y : κ × Nat) : (keyLe x y || keyLe y x) = true := by
  rw [keyLe, keyLe, Bool.or_eq_true, decide_eq_true_eq, decide_eq_true_eq]
  exact le_total x.1 y.1

theorem filter_mergeSort_zipIdx (keys : List κ) (k : κ) :
    (keys.zipIdx.mergeSort keyLe).filter (fun x => decide (x.1 = k)) =
      keys.zipIdx.filter (fun x => decide (x.1 = k)) := by
  -- The rows of one key are sorted already, so a stable sort has them as a sublist.
  have hsorted : (keys.zipIdx.filter fun x => decide (x.1 = k)).Pairwise fun x y => keyLe x y = true := by
    refine List.pairwise_of_forall_mem_list fun x hx y hy => decide_eq_true ?_
    rw [of_decide_eq_true (List.mem_filter.mp hx).2, of_decide_eq_true (List.mem_filter.mp hy).2]
  have hsub := (List.sublist_mergeSort keyLe_trans keyLe_total hsorted List.filter_sublist).filter
    fun x => decide (x.1 = k)
  rw [List.filter_filter] at hsub
  simp only [Bool.and_self] at hsub
  exact (hsub.eq_of_length ((List.mergeSort_perm _ _).filter _).length_eq.symm).symm

theorem mergeSort_zipIdx_pairwise (keys : List κ) :
    (keys.zipIdx.mergeSort keyLe).Pairwise PairBefore := by
  -- Two rows of one key follow each other as they do among the rows of that key alone.
  rw [List.pairwise_iff_forall_sublist]
  intro x y hxy
  have hle : x.1 ≤ y.1 := of_decide_eq_true (List.pairwise_iff_forall_sublist.mp
    (List.pairwise_mergeSort keyLe_trans keyLe_total keys.zipIdx) hxy)
  rcases hle.lt_or_eq with hlt | heq
  · exact Or.inl hlt
  · have hboth : [x, y].filter (fun z => decide (z.1 = y.1)) = [x, y] := by
      rw [List.filter_eq_self, List.forall_mem_cons, List.forall_mem_singleton]
      exact ⟨decide_eq_true heq, decide_eq_true rfl⟩
    have hsame := hxy.filter fun z => decide (z.1 = y.1)
    rw [filter_mergeSort_zipIdx, hboth] at hsame
    exact Or.inr ⟨heq, List.pairwise_iff_forall_sublist.mp (zipIdx_pairwise keys)
      (hsame.trans List.filter_sublist)⟩

theorem PairBefore.asymm {x y : κ × Nat} (hxy : PairBefore x y) : ¬ PairBefore y x := by
  rintro (hyx | ⟨heq, hyx⟩) <;> rcases hxy with hxy | ⟨heq', hxy⟩
  · exact hxy.asymm hyx
  · exact hyx.ne' heq'
  · exact hxy.ne' heq
  · exact hxy.asymm hyx

theorem rowOrder_eq_map {keys : List κ} {pairs : List (κ × Nat)} (hperm : pairs.Perm keys.zipIdx)
    (hsorted : pairs.Pairwise PairBefore) : rowOrder keys = pairs.map Prod.snd := by
  have hperm' := (List.mergeSort_perm keys.zipIdx keyLe).trans hperm.symm
  rw [rowOrder, List.Perm.eq_of_pairwise (fun x y _ _ hxy hyx => absurd hyx hxy.asymm)
    (mergeSort_zipIdx_pairwise keys) hsorted hperm']

theorem rowOrder_perm (keys : List κ) : (rowOrder keys).Perm (List.range keys.length) := by
  have hperm := (List.mergeSort_perm keys.zipIdx keyLe).map Prod.snd
  rw [List.zipIdx_map_snd, ← List.range_eq_range'] at hperm
  exact hperm

theorem rowOrder_pairwise (keys : List κ) : (rowOrder keys).Pairwise (RowBefore keys) := by
  rw [rowOrder, List.pairwise_map]
  refine (mergeSort_zipIdx_pairwise keys).imp_of_mem fun hx hy hxy => ?_
  have hmem {z : κ × Nat} (hz : z ∈ keys.zipIdx.mergeSort keyLe) : keys[z.2]? = some z.1 :=
    List.mem_zipIdx_iff_getElem?.mp ((List.mergeSort_perm _ _).mem_iff.mp hz)
  exact ⟨_, _, hmem hx, hmem hy, hxy⟩

/-- Other keys in the same order put the rows in the same order. -/
theorem rowOrder_map {μ : Type} [LinearOrder μ] {f : κ → μ} (hf : ∀ a b, f a ≤ f b ↔ a ≤ b)
    (keys : List κ) : rowOrder (keys.map f) = rowOrder keys := by
  have hle (x y : κ × Nat) : keyLe x y = keyLe (Prod.map f id x) (Prod.map f id y) :=
    decide_eq_decide.mpr (hf x.1 y.1).symm
  rw [rowOrder, List.zipIdx_map, ← List.map_mergeSort fun x _ y _ => hle x y, List.map_map, rowOrder]
  rfl

end

/-! ### Comparing composite keys -/

theorem compareKeys_compares (a b : List Int) : (compareKeys a b).Compares a b := by
  induction a generalizing b with
  | nil =>
    cases b with
    | nil => exact rfl
    | cons y ys => exact List.nil_lt_cons y ys
  | cons x xs ih =>
    cases b with
    | nil => exact List.nil_lt_cons x xs
    | cons y ys =>
      rw [compareKeys]
      split_ifs with hxy hyx
      · exact List.cons_lt_cons_iff.mpr (Or.inl hxy)
      · exact List.cons_lt_cons_iff.mpr (Or.inl hyx)
      · obtain rfl : x = y := by omega
        have hrest := ih ys
        cases hcompare : compareKeys xs ys with
        | lt =>
          rw [hcompare] at hrest
          exact List.cons_lt_cons_iff.mpr (Or.inr ⟨rfl, hrest⟩)
        | eq =>
          rw [hcompare] at hrest
          exact congrArg (x :: ·) hrest
        | gt =>
          rw [hcompare] at hrest
          exact List.cons_lt_cons_iff.mpr (Or.inr ⟨rfl, hrest⟩)

/-! ### Groups -/

/-- Composite keys, each with the rows that have it. -/
abbrev Groups := List (List Int × List Nat)

/-- The rows of the groups with their keys, group after group. -/
def pairsOf (groups : Groups) : List (List Int × Nat) := groups.flatMap fun g => g.2.map fun r => (g.1, r)

theorem pairsOf_cons (g : List Int × List Nat) (groups : Groups) :
    pairsOf (g :: groups) = (g.2.map fun r => (g.1, r)) ++ pairsOf groups := List.flatMap_cons

/-- A row opens a group in front of the groups of greater keys, or it joins the group of its key. -/
theorem insertRow_cons (composite k : List Int) (row : Nat) (rows : List Nat) (groups : Groups) :
    (composite < k ∧
      insertRow composite row ((k, rows) :: groups) = (composite, [row]) :: (k, rows) :: groups) ∨
    (composite = k ∧ insertRow composite row ((k, rows) :: groups) = (k, rows ++ [row]) :: groups) ∨
    (k < composite ∧
      insertRow composite row ((k, rows) :: groups) = (k, rows) :: insertRow composite row groups) := by
  have hcompares := compareKeys_compares composite k
  rw [insertRow]
  cases hcompare : compareKeys composite k <;> rw [hcompare] at hcompares
  · exact Or.inl ⟨hcompares, rfl⟩
  · exact Or.inr (Or.inl ⟨hcompares, rfl⟩)
  · exact Or.inr (Or.inr ⟨hcompares, rfl⟩)

theorem pairsOf_insertRow (composite : List Int) (row : Nat) (groups : Groups) :
    (pairsOf (insertRow composite row groups)).Perm ((composite, row) :: pairsOf groups) := by
  induction groups with
  | nil => exact List.Perm.refl _
  | cons g groups ih =>
    obtain ⟨k, rows⟩ := g
    rcases insertRow_cons composite k row rows groups with ⟨_, h⟩ | ⟨rfl, h⟩ | ⟨_, h⟩ <;>
      rw [h, pairsOf_cons]
    · exact List.Perm.refl _
    · rw [pairsOf_cons, List.map_append, List.append_assoc]
      exact List.perm_middle
    · rw [pairsOf_cons]
      exact (ih.append_left _).trans List.perm_middle

theorem mem_insertRow {composite : List Int} {row : Nat} {groups : Groups} {g : List Int × List Nat}
    (h : g ∈ insertRow composite row groups) :
    g ∈ groups ∨ g = (composite, [row]) ∨
      ∃ rows, (composite, rows) ∈ groups ∧ g = (composite, rows ++ [row]) := by
  induction groups with
  | nil => exact Or.inr (Or.inl (List.mem_singleton.mp h))
  | cons g' groups ih =>
    obtain ⟨k, rows⟩ := g'
    rcases insertRow_cons composite k row rows groups with ⟨_, heq⟩ | ⟨rfl, heq⟩ | ⟨_, heq⟩ <;>
      rw [heq] at h <;> rcases List.mem_cons.mp h with rfl | h
    · exact Or.inr (Or.inl rfl)
    · exact Or.inl h
    · exact Or.inr (Or.inr ⟨rows, List.mem_cons_self, rfl⟩)
    · exact Or.inl (List.mem_cons_of_mem _ h)
    · exact Or.inl List.mem_cons_self
    · rcases ih h with hold | hnew | ⟨rows', hmem, hg⟩
      · exact Or.inl (List.mem_cons_of_mem _ hold)
      · exact Or.inr (Or.inl hnew)
      · exact Or.inr (Or.inr ⟨rows', List.mem_cons_of_mem _ hmem, hg⟩)

/-- Groups of rows below `bound`: in the order of their keys, none of them empty, and the rows of each in
ascending order. -/
structure Grouped (groups : Groups) (bound : Nat) : Prop where
  keys : groups.Pairwise fun g h => g.1 < h.1
  filled : ∀ g ∈ groups, g.2 ≠ []
  below : ∀ g ∈ groups, ∀ r ∈ g.2, r < bound
  ascending : ∀ g ∈ groups, g.2.Pairwise (· < ·)

theorem grouped_nil (bound : Nat) : Grouped [] bound := ⟨.nil, nofun, nofun, nofun⟩

theorem keys_insertRow (composite : List Int) (row : Nat) {groups : Groups}
    (h : groups.Pairwise fun g g' => g.1 < g'.1) :
    (insertRow composite row groups).Pairwise fun g g' => g.1 < g'.1 := by
  induction groups with
  | nil => exact List.pairwise_singleton _ _
  | cons g groups ih =>
    obtain ⟨k, rows⟩ := g
    obtain ⟨hk, hrest⟩ := List.pairwise_cons.mp h
    rcases insertRow_cons composite k row rows groups with ⟨hlt, heq⟩ | ⟨rfl, heq⟩ | ⟨hlt, heq⟩ <;>
      rw [heq, List.pairwise_cons]
    · refine ⟨fun g hg => ?_, h⟩
      rcases List.mem_cons.mp hg with rfl | hg
      · exact hlt
      · exact hlt.trans (hk g hg)
    · exact ⟨hk, hrest⟩
    · refine ⟨fun g hg => ?_, ih hrest⟩
      rcases mem_insertRow hg with hg | rfl | ⟨rows', _, rfl⟩
      · exact hk g hg
      · exact hlt
      · exact hlt

theorem Grouped.insertRow {groups : Groups} {row : Nat} (h : Grouped groups row)
    (composite : List Int) : Grouped (insertRow composite row groups) (row + 1) := by
  refine ⟨keys_insertRow composite row h.keys, ?_, ?_, ?_⟩ <;> intro g hg <;>
    rcases mem_insertRow hg with hg | rfl | ⟨rows, hmem, rfl⟩
  · exact h.filled g hg
  · exact List.cons_ne_nil _ _
  · exact List.append_ne_nil_of_right_ne_nil _ (List.cons_ne_nil _ _)
  · exact fun r hr => Nat.lt_succ_of_lt (h.below g hg r hr)
  · intro r hr
    rw [List.mem_singleton.mp hr]
    exact Nat.lt_succ_self row
  · intro r hr
    rcases List.mem_append.mp hr with hr | hr
    · exact Nat.lt_succ_of_lt (h.below _ hmem r hr)
    · rw [List.mem_singleton.mp hr]
      exact Nat.lt_succ_self row
  · exact h.ascending g hg
  · exact List.pairwise_singleton _ _
  · refine List.pairwise_append.mpr ⟨h.ascending _ hmem, List.pairwise_singleton _ _, ?_⟩
    intro r hr r' hr'
    rw [List.mem_singleton.mp hr']
    exact h.below _ hmem r hr

theorem Grouped.groupRows {groups : Groups} {row : Nat} (h : Grouped groups row)
    (composites : List (List Int)) :
    Grouped (groupRows row composites groups) (row + composites.length) := by
  induction composites generalizing row groups with
  | nil => exact h
  | cons c cs ih =>
    rw [JoinTable.groupRows, List.length_cons, Nat.add_comm cs.length, ← Nat.add_assoc]
    exact ih (h.insertRow c)

theorem pairsOf_groupRows (row : Nat) (composites : List (List Int)) (groups : Groups) :
    (pairsOf (groupRows row composites groups)).Perm (pairsOf groups ++ composites.zipIdx row) := by
  induction composites generalizing row groups with
  | nil => rw [groupRows, List.zipIdx_nil, List.append_nil]
  | cons c cs ih =>
    rw [groupRows, List.zipIdx_cons]
    exact ((ih (row + 1) _).trans ((pairsOf_insertRow c row groups).append_right _)).trans
      List.perm_middle.symm

variable {groups : Groups} {bound : Nat}

theorem Grouped.pairsOf_pairwise (h : Grouped groups bound) : (pairsOf groups).Pairwise PairBefore := by
  rw [pairsOf, List.pairwise_flatMap]
  constructor
  · intro g hg
    rw [List.pairwise_map]
    exact (h.ascending g hg).imp fun hrows => Or.inr ⟨rfl, hrows⟩
  · refine h.keys.imp fun hkeys x hx y hy => ?_
    obtain ⟨r, _, rfl⟩ := List.mem_map.mp hx
    obtain ⟨r', _, rfl⟩ := List.mem_map.mp hy
    exact Or.inl hkeys

theorem map_fst_pairsOf (groups : Groups) :
    (pairsOf groups).map Prod.fst = groups.flatMap fun g => List.replicate g.2.length g.1 := by
  rw [pairsOf, List.map_flatMap]
  congr 1
  funext g
  rw [List.map_map, ← List.map_const']
  rfl

theorem map_snd_pairsOf (groups : Groups) : (pairsOf groups).map Prod.snd = groups.flatMap Prod.snd := by
  rw [pairsOf, List.map_flatMap]
  congr 1
  funext g
  rw [List.map_map]
  exact List.map_id _

theorem Grouped.length_eq_card (h : Grouped groups bound) :
    groups.length = ((pairsOf groups).map Prod.fst).toFinset.card := by
  have hnodup : (groups.map Prod.fst).Nodup :=
    List.pairwise_map.mpr (h.keys.imp fun hlt => hlt.ne)
  have hsame : ((pairsOf groups).map Prod.fst).toFinset = (groups.map Prod.fst).toFinset := by
    ext k
    rw [List.mem_toFinset, List.mem_toFinset, map_fst_pairsOf, List.mem_flatMap, List.mem_map]
    constructor
    · rintro ⟨g, hg, hk⟩
      exact ⟨g, hg, (List.eq_of_mem_replicate hk).symm⟩
    · rintro ⟨g, hg, rfl⟩
      refine ⟨g, hg, List.mem_replicate.mpr ⟨?_, rfl⟩⟩
      exact fun hlength => h.filled g hg (List.length_eq_zero_iff.mp hlength)
  rw [hsame, List.toFinset_card_of_nodup hnodup, List.length_map]

theorem Grouped.all_length_iff (h : Grouped groups bound) :
    (groups.all fun g => g.2.length == 1) = true ↔ ((pairsOf groups).map Prod.fst).Nodup := by
  rw [map_fst_pairsOf, List.nodup_flatMap, List.all_eq_true]
  constructor
  · refine fun hall => ⟨fun g hg => ?_, h.keys.imp fun hlt => ?_⟩
    · rw [List.nodup_replicate, eq_of_beq (hall g hg)]
    · refine List.disjoint_iff_ne.mpr ?_
      intro k hk l hl hkl
      rw [List.eq_of_mem_replicate hk, List.eq_of_mem_replicate hl] at hkl
      exact hlt.ne hkl
  · rintro ⟨hone, _⟩ g hg
    have hle := List.nodup_replicate.mp (hone g hg)
    have hpos := List.length_pos_iff.mpr (h.filled g hg)
    exact beq_iff_eq.mpr (by omega)

/-! ### The table -/

/-- The layout of keys of which no two, or some two, are the same. -/
def layoutOf {κ : Type} [DecidableEq κ] (keys : List κ) : JoinLayout :=
  if keys.Nodup then .oneToOne else .oneToMany

theorem layoutOf_eq_oneToOne_iff {κ : Type} [DecidableEq κ] (keys : List κ) :
    layoutOf keys = .oneToOne ↔ keys.Nodup := by
  rw [layoutOf]
  split_ifs with hnodup
  · exact iff_of_true rfl hnodup
  · exact iff_of_false nofun hnodup

theorem buildBaseline_eq_some (key : Option ArtifactKey) (device : DeviceId)
    {composites : List (List Int)} (hrows : composites.length ≤ rowLimit + 1) :
    ∃ t, buildBaseline key device composites = some t ∧
      t.kind = .baseline ((composites.head?.map List.length).getD 0) ∧
      t.key = key ∧ t.device = device ∧
      t.slots.toList = (rowOrder composites).map Int.ofNat ∧
      t.entryCount = composites.toFinset.card ∧
      t.layout = layoutOf composites := by
  have hgrouped : Grouped (groupRows 0 composites []) (0 + composites.length) :=
    (grouped_nil 0).groupRows composites
  have hperm : (pairsOf (groupRows 0 composites [])).Perm composites.zipIdx :=
    pairsOf_groupRows 0 composites []
  have hkeys := hperm.map Prod.fst
  rw [List.zipIdx_map_fst] at hkeys
  refine ⟨_, if_pos hrows, rfl, rfl, rfl, ?_, ?_, ?_⟩
  · rw [List.toList_toArray, rowOrder_eq_map hperm hgrouped.pairsOf_pairwise, map_snd_pairsOf]
  · rw [hgrouped.length_eq_card, List.toFinset_eq_of_perm _ _ hkeys]
  · simp only [layoutOf, ← hkeys.nodup_iff, ← hgrouped.all_length_iff]

/-- For every list of composite keys whose rows can be numbered there is a baseline table, and its slots are
the rows sorted by their keys: all of them, lesser keys first, and rows of one key in ascending order. It
counts the different keys, and it is one-to-one exactly if no two rows have one key. Neither the count nor
the layout depends on the order of the rows. -/
theorem baseline_table (key : Option ArtifactKey) (device : DeviceId) {composites : List (List Int)}
    (hrows : composites.length ≤ rowLimit) :
    ∃ t, buildBaseline key device composites = some t ∧
      t.slots.toList = (rowOrder composites).map Int.ofNat ∧
      (rowOrder composites).Perm (List.range composites.length) ∧
      (rowOrder composites).Pairwise (RowBefore composites) ∧
      t.entryCount = composites.toFinset.card ∧
      (t.layout = .oneToOne ↔ composites.Nodup) ∧
      ∀ others, others.Perm composites → ∃ u, buildBaseline key device others = some u ∧
        u.entryCount = t.entryCount ∧ u.layout = t.layout := by
  obtain ⟨t, ht, _, _, _, hslots, hcount, hlayout⟩ :=
    buildBaseline_eq_some key device (Nat.le_succ_of_le hrows)
  refine ⟨t, ht, hslots, rowOrder_perm composites, rowOrder_pairwise composites, hcount, ?_, ?_⟩
  · rw [hlayout, layoutOf_eq_oneToOne_iff]
  · intro others hperm
    have hothers : others.length ≤ rowLimit + 1 := hperm.length_eq ▸ Nat.le_succ_of_le hrows
    obtain ⟨u, hu, _, _, _, _, hcount', hlayout'⟩ := buildBaseline_eq_some key device hothers
    refine ⟨u, hu, ?_, ?_⟩
    · rw [hcount', hcount, List.toFinset_eq_of_perm _ _ hperm]
    · simp only [hlayout', hlayout, layoutOf, hperm.nodup_iff]

/- Keys of different lengths and signs, one of them twice. -/
theorem baseline_table_of_ragged_keys :
    let composites : List (List Int) := [[1, 2], [], [-3], [1, 2], [1]]
    composites.length ≤ rowLimit ∧ ∃ t, buildBaseline none DeviceId.cpu composites = some t ∧
      t.slots.toList = [1, 2, 4, 0, 3] ∧ t.entryCount = 4 ∧ t.layout ≠ .oneToOne := by
  intro composites
  have hrows : composites.length ≤ rowLimit := by decide
  obtain ⟨t, ht, hslots, _, _, hcount, hlayout, _⟩ := baseline_table none DeviceId.cpu hrows
  let pairs : List (List Int × Nat) := [([], 1), ([-3], 2), ([1], 4), ([1, 2], 0), ([1, 2], 3)]
  have hperm : pairs.Perm composites.zipIdx := by decide
  have hsorted : pairs.Pairwise PairBefore := by decide
  have horder : rowOrder composites = [1, 2, 4, 0, 3] := rowOrder_eq_map hperm hsorted
  refine ⟨hrows, t, ht, ?_, ?_, ?_⟩
  · rw [hslots, horder]
    rfl
  · rw [hcount]
    decide
  · rw [Ne, hlayout]
    decide

end PlanReuse.JoinTable
