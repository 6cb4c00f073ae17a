import Mathlib.Algebra.Order.Group.Nat
import Mathlib.Algebra.Order.BigOperators.Group.List
import PlanReuse.Proofs.JoinTable.Words

/-!
# One-to-many perfect tables

The rows of each key stand side by side, in ascending order, in a stretch that begins at the key's offset.
The stretches follow one another in the order of the keys and fill the rows of the table.
-/

namespace PlanReuse.JoinTable

/-! ### The three areas -/

/-- The first slots of a one-to-many table: where the rows of each key begin. -/
def offsetArea (t : JoinTable) : List Int := t.slots.toList.take t.entryCount

/-- The slots behind the offsets: how many rows each key has. -/
def countArea (t : JoinTable) : List Int := (t.slots.toList.drop t.entryCount).take t.entryCount

def rowArea (t : JoinTable) : List Int := t.slots.toList.drop (2 * t.entryCount)

/-- The rows from the offset of a bucket on, as many as it counts. -/
def stretch (t : JoinTable) (b : Nat) : List Int :=
  (t.rowArea.drop (t.offsetArea.getD b 0).toNat).take (t.countArea.getD b 0).toNat

/-! ### Rows at the cursors -/

variable {low : Int} {range : Nat} {column : List Int}

/-- The rows of the keys that belong to a bucket; `row` numbers the first row of the column. -/
def rowsIn (low : Int) (b row : Nat) (column : List Int) : List Nat :=
  (column.map (bucket low)).idxsOf b row

theorem rowsIn_cons_self (row : Nat) (v : Int) (vs : List Int) :
    rowsIn low (bucket low v) row (v :: vs) = row :: rowsIn low (bucket low v) (row + 1) vs := by
  rw [rowsIn, List.map_cons, List.idxsOf_cons, if_pos BEq.rfl, rowsIn]

theorem rowsIn_cons_of_ne {b : Nat} {v : Int} (h : bucket low v ≠ b) (row : Nat) (vs : List Int) :
    rowsIn low b row (v :: vs) = rowsIn low b (row + 1) vs := by
  rw [rowsIn, List.map_cons, List.idxsOf_cons, if_neg (by rwa [beq_iff_eq]), rowsIn]

theorem length_rowsIn (low : Int) (b row : Nat) (column : List Int) :
    (rowsIn low b row column).length = (column.map (bucket low)).count b := List.length_idxsOf

/-- Room for the rows that are still to be placed: the stretch from each cursor on is long enough for the
rows of its bucket, and no two such stretches overlap. -/
structure Room (low : Int) (column : List Int) (cursors : Array Nat) (size : Nat) : Prop where
  owned : ∀ v ∈ column, bucket low v < cursors.size
  fits : ∀ b n, cursors[b]? = some n → n + (column.map (bucket low)).count b ≤ size
  apart : ∀ b c m n, b ≠ c → cursors[b]? = some m → cursors[c]? = some n →
    m + (column.map (bucket low)).count b ≤ n ∨ n + (column.map (bucket low)).count c ≤ m

theorem getElem?_modify_succ {cursors : Array Nat} {a b n : Nat}
    (h : (cursors.modify a (· + 1))[b]? = some n) :
    (a = b ∧ ∃ m, cursors[b]? = some m ∧ n = m + 1) ∨ (a ≠ b ∧ cursors[b]? = some n) := by
  rw [Array.getElem?_modify] at h
  by_cases hab : a = b
  · rw [if_pos hab, Option.map_eq_some_iff] at h
    obtain ⟨m, hm, rfl⟩ := h
    exact Or.inl ⟨hab, m, hm, rfl⟩
  · rw [if_neg hab] at h
    exact Or.inr ⟨hab, h⟩

theorem Room.next {v : Int} {vs : List Int} {cursors : Array Nat} {size : Nat}
    (h : Room low (v :: vs) cursors size) : Room low vs (cursors.modify (bucket low v) (· + 1)) size := by
  obtain ⟨howned, hfits, hapart⟩ := h
  simp only [List.map_cons, List.count_cons, beq_iff_eq] at hfits hapart
  refine ⟨?_, ?_, ?_⟩
  · intro w hw
    rw [Array.size_modify]
    exact howned w (List.mem_cons_of_mem v hw)
  · intro b n hn
    rcases getElem?_modify_succ hn with ⟨hb, m, hm, rfl⟩ | ⟨hb, hn⟩
    · have hle := hfits b m hm
      rw [if_pos hb] at hle
      omega
    · have hle := hfits b n hn
      omega
  · intro b c m n hbc hm hn
    rcases getElem?_modify_succ hm with ⟨hb, m', hm', rfl⟩ | ⟨hb, hm⟩ <;>
      rcases getElem?_modify_succ hn with ⟨hc, n', hn', rfl⟩ | ⟨hc, hn⟩
    · exact absurd (hb.symm.trans hc) hbc
    · have hsplit := hapart b c m' n hbc hm' hn
      rw [if_pos hb, if_neg hc] at hsplit
      omega
    · have hsplit := hapart b c m n' hbc hm hn'
      rw [if_neg hb, if_pos hc] at hsplit
      omega
    · have hsplit := hapart b c m n hbc hm hn
      rw [if_neg hb, if_neg hc] at hsplit
      omega

theorem size_placeAll (low : Int) (row : Nat) (column : List Int) (cursors : Array Nat)
    (rows : Array Int) : (placeAll low row column cursors rows).size = rows.size := by
  induction column generalizing row cursors rows with
  | nil => rfl
  | cons v vs ih => rw [placeAll, ih, Array.size_setIfInBounds]

theorem getElem?_placeAll_of_outside {cursors : Array Nat} {rows : Array Int} {size p : Nat}
    (hroom : Room low column cursors size)
    (hp : ∀ b n, cursors[b]? = some n → p < n ∨ n + (column.map (bucket low)).count b ≤ p) (row : Nat) :
    (placeAll low row column cursors rows)[p]? = rows[p]? := by
  induction column generalizing row cursors rows with
  | nil => rfl
  | cons v vs ih =>
    have hcursor := Array.getElem?_eq_getElem (hroom.owned v List.mem_cons_self)
    simp only [List.map_cons, List.count_cons, beq_iff_eq] at hp
    have hne := hp _ _ hcursor
    rw [if_pos rfl] at hne
    rw [placeAll, ih hroom.next, hcursor, Option.getD_some, Array.getElem?_setIfInBounds_ne (by omega)]
    intro b n hn
    rcases getElem?_modify_succ hn with ⟨hb, m, hm, rfl⟩ | ⟨hb, hn⟩
    · have hout := hp b m hm
      rw [if_pos hb] at hout
      omega
    · have hout := hp b n hn
      omega

/-- Every row of a bucket comes to its place in the stretch from the bucket's cursor on. -/
theorem getElem?_placeAll {cursors : Array Nat} {rows : Array Int} {size b n j r row : Nat}
    (hroom : Room low column cursors size) (hsize : rows.size = size) (hn : cursors[b]? = some n)
    (hr : (rowsIn low b row column)[j]? = some r) :
    (placeAll low row column cursors rows)[n + j]? = some (r : Int) := by
  -- A row is placed at the cursor of its bucket; `Room.next` keeps the stretches apart as it moves on.
  induction column generalizing row cursors rows n j with
  | nil => cases hr
  | cons v vs ih =>
    have hcursor := Array.getElem?_eq_getElem (hroom.owned v List.mem_cons_self)
    have hsize' (i : Nat) (x : Int) : (rows.setIfInBounds i x).size = size := by
      rw [Array.size_setIfInBounds, hsize]
    rw [placeAll]
    by_cases hb : bucket low v = b
    · subst hb
      have hfits := hroom.fits _ _ hn
      rw [List.map_cons, List.count_cons_self] at hfits
      rw [rowsIn_cons_self] at hr
      simp only [hn, Option.getD_some]
      cases j with
      | zero =>
        cases hr
        -- The place just filled belongs to no stretch of the rows that are left.
        rw [Nat.add_zero n, getElem?_placeAll_of_outside hroom.next ?_,
          Array.getElem?_setIfInBounds_self_of_lt (by omega)]
        intro c m hm
        rcases getElem?_modify_succ hm with ⟨rfl, m', hm', rfl⟩ | ⟨hc, hm⟩
        · rw [hn] at hm'
          cases hm'
          omega
        · have hsplit := hroom.apart _ c n m hc hn hm
          rw [List.map_cons, List.count_cons_self, List.count_cons_of_ne hc] at hsplit
          omega
      | succ j =>
        rw [List.getElem?_cons_succ] at hr
        have hmoved : (cursors.modify (bucket low v) (· + 1))[bucket low v]? = some (n + 1) := by
          rw [Array.getElem?_modify, if_pos rfl, hn, Option.map_some]
        rw [← Nat.add_assoc, Nat.add_right_comm]
        exact ih hroom.next (hsize' n row) hmoved hr
    · rw [rowsIn_cons_of_ne hb] at hr
      refine ih hroom.next (hsize' _ _) ?_ hr
      rw [Array.getElem?_modify, if_neg hb, hn]

/-! ### The offsets as cursors -/

/-- A stretch ends where the next one begins, and the last one where all rows end. -/
theorem getElem?_offsetsFrom_succ {start b n c : Nat} {counts : List Nat} (hc : counts[b]? = some c)
    (hn : (offsetsFrom start counts)[b]? = some n) :
    (offsetsFrom start counts ++ [start + counts.sum])[b + 1]? = some (n + c) := by
  induction counts generalizing start b with
  | nil => cases hc
  | cons m ms ih =>
    rw [offsetsFrom, List.cons_append, List.getElem?_cons_succ, List.sum_cons, ← Nat.add_assoc]
    cases b with
    | zero =>
      cases hc
      cases hn
      cases ms with
      | nil => rfl
      | cons m' ms => rfl
    | succ b => exact ih hc hn

theorem offsets_apart {counts : List Nat} {b c m n x : Nat} (hbc : b < c) (hx : counts[b]? = some x)
    (hm : (offsetsFrom 0 counts)[b]? = some m) (hn : (offsetsFrom 0 counts)[c]? = some n) : m + x ≤ n := by
  have hc : c < counts.length := by
    rw [← length_offsetsFrom 0 counts]
    exact (List.getElem?_eq_some_iff.mp hn).1
  rw [getElem?_offsetsFrom hx] at hm
  rw [getElem?_offsetsFrom (List.getElem?_eq_getElem hc)] at hn
  cases hm
  cases hn
  obtain ⟨hb, rfl⟩ := List.getElem?_eq_some_iff.mp hx
  have hnext := List.sum_take_succ counts b hb
  have hmono : (counts.take (b + 1)).sum ≤ (counts.take c).sum := List.monotone_sum_take counts hbc
  omega

theorem room_offsets (hinside : Inside low range column) :
    Room low column (offsetsFrom 0 (countRows low range column).toList).toArray column.length := by
  have hcounts {b n : Nat}
      (hn : (offsetsFrom 0 (countRows low range column).toList).toArray[b]? = some n) :
      (offsetsFrom 0 (countRows low range column).toList)[b]? = some n ∧
        (countRows low range column).toList[b]? = some ((column.map (bucket low)).count b) := by
    rw [List.getElem?_toArray] at hn
    have hb := (List.getElem?_eq_some_iff.mp hn).1
    rw [length_offsetsFrom, Array.length_toList, size_countRows] at hb
    exact ⟨hn, getElem?_countRows low column hb⟩
  refine ⟨?_, ?_, ?_⟩
  · intro v hv
    rw [List.size_toArray, length_offsetsFrom, Array.length_toList, size_countRows]
    exact (hinside v hv).2
  · intro b n hn
    obtain ⟨hn, hb⟩ := hcounts hn
    have hle := offset_add_le hb hn
    rw [sum_countRows hinside] at hle
    omega
  · intro b c m n hbc hm hn
    obtain ⟨hm, hb⟩ := hcounts hm
    obtain ⟨hn, hc⟩ := hcounts hn
    rcases Nat.lt_or_gt_of_ne hbc with h | h
    · exact Or.inl (offsets_apart h hb hm hn)
    · exact Or.inr (offsets_apart h hc hn hm)

/-! ### The table -/

theorem rowsIn_eq_idxsOf {value : Int} (hcolumn : ∀ v ∈ column, low ≤ v) (hvalue : low ≤ value)
    (row : Nat) : rowsIn low (bucket low value) row column = column.idxsOf value row := by
  induction column generalizing row with
  | nil => rfl
  | cons v vs ih =>
    obtain ⟨hv, hvs⟩ := List.forall_mem_cons.mp hcolumn
    rw [List.idxsOf_cons, ← ih hvs]
    by_cases hsame : v = value
    · rw [hsame, rowsIn_cons_self, if_pos BEq.rfl]
    · rw [rowsIn_cons_of_ne (fun h => hsame ((bucket_inj hv hvalue).mp h)),
        if_neg (by rwa [beq_iff_eq])]

section

variable (key : Option ArtifactKey) (device : DeviceId) (v : Int) (vs : List Int)

/-- The number of rows of each key from the least to the greatest one. -/
def keyCounts : List Nat := (countRows (least v vs) (span v vs) (v :: vs)).toList

/-- The rows in the order of their keys. -/
def placedRows : Array Int :=
  placeAll (least v vs) 0 (v :: vs) (offsetsFrom 0 (keyCounts v vs)).toArray
    (Array.replicate (v :: vs).length emptySlot)

theorem length_keyCounts : (keyCounts v vs).length = span v vs := by
  rw [keyCounts, Array.length_toList, size_countRows]

theorem toList_slots_stretchTable : (stretchTable key device v vs).slots.toList =
    (offsetsFrom 0 (keyCounts v vs)).map Int.ofNat ++ (keyCounts v vs).map Int.ofNat ++
      (placedRows v vs).toList := by
  rw [stretchTable, oneToManySlots, Array.toList_append, Array.toList_append, Array.toList_map,
    Array.toList_map]
  rfl

theorem offsetArea_stretchTable :
    (stretchTable key device v vs).offsetArea = (offsetsFrom 0 (keyCounts v vs)).map Int.ofNat := by
  rw [offsetArea, toList_slots_stretchTable, List.append_assoc]
  apply List.take_left'
  rw [List.length_map, length_offsetsFrom, length_keyCounts]
  rfl

theorem countArea_stretchTable :
    (stretchTable key device v vs).countArea = (keyCounts v vs).map Int.ofNat := by
  rw [countArea, toList_slots_stretchTable, List.append_assoc, List.drop_left']
  · apply List.take_left'
    rw [List.length_map, length_keyCounts]
    rfl
  · rw [List.length_map, length_offsetsFrom, length_keyCounts]
    rfl

theorem rowArea_stretchTable : (stretchTable key device v vs).rowArea = (placedRows v vs).toList := by
  rw [rowArea, toList_slots_stretchTable, List.drop_left']
  rw [List.length_append, List.length_map, List.length_map, length_offsetsFrom, length_keyCounts,
    ← Nat.two_mul]
  rfl

theorem length_rowArea_stretchTable : (stretchTable key device v vs).rowArea.length = (v :: vs).length := by
  rw [rowArea_stretchTable, Array.length_toList, placedRows, size_placeAll, Array.size_replicate]

theorem size_slots_stretchTable :
    (stretchTable key device v vs).slots.size = 2 * span v vs + (v :: vs).length := by
  rw [← Array.length_toList, toList_slots_stretchTable, ← rowArea_stretchTable key device,
    List.length_append, length_rowArea_stretchTable, List.length_append, List.length_map,
    List.length_map, length_offsetsFrom, length_keyCounts, ← Nat.two_mul]

theorem stretch_stretchTable {value : Int} (hlow : least v vs ≤ value) (hhigh : value ≤ greatest v vs) :
    (stretchTable key device v vs).stretch (bucket (least v vs) value) =
      ((v :: vs).idxsOf value).map Int.ofNat := by
  have hinside := inside_span v vs
  have hb : bucket (least v vs) value < span v vs := bucket_lt hlow hhigh
  obtain ⟨n, hn⟩ : ∃ n, (offsetsFrom 0 (keyCounts v vs))[bucket (least v vs) value]? = some n :=
    ⟨_, List.getElem?_eq_getElem (by rw [length_offsetsFrom, length_keyCounts]; exact hb)⟩
  have hoffset : (stretchTable key device v vs).offsetArea.getD (bucket (least v vs) value) 0 = n := by
    rw [offsetArea_stretchTable, List.getD_eq_getElem?_getD, List.getElem?_map, hn]
    rfl
  have hcount : (stretchTable key device v vs).countArea.getD (bucket (least v vs) value) 0 =
      (rowsIn (least v vs) (bucket (least v vs) value) 0 (v :: vs)).length := by
    rw [countArea_stretchTable, List.getD_eq_getElem?_getD, List.getElem?_map, keyCounts,
      getElem?_countRows (least v vs) (v :: vs) hb, length_rowsIn]
    rfl
  rw [← rowsIn_eq_idxsOf (fun w hw => (hinside w hw).1) hlow, stretch, hoffset, hcount,
    rowArea_stretchTable, Int.toNat_natCast, Int.toNat_natCast]
  apply List.ext_getElem?
  intro j
  rw [List.getElem?_map]
  by_cases hj : j < (rowsIn (least v vs) (bucket (least v vs) value) 0 (v :: vs)).length
  · rw [List.getElem?_take_of_lt hj, List.getElem?_drop, Array.getElem?_toList,
      List.getElem?_eq_getElem hj, Option.map_some]
    exact getElem?_placeAll (room_offsets hinside) Array.size_replicate
      (by rw [List.getElem?_toArray]; exact hn) (List.getElem?_eq_getElem hj)
  · rw [List.getElem?_take_eq_none (by omega), List.getElem?_eq_none (by omega), Option.map_none]

theorem countArea_getElem?_stretchTable {value : Int} (hlow : least v vs ≤ value)
    (hhigh : value ≤ greatest v vs) :
    (stretchTable key device v vs).countArea[bucket (least v vs) value]? =
      some ((v :: vs).count value : Int) := by
  have hcolumn : ∀ w ∈ v :: vs, least v vs ≤ w := fun w hw => (inside_span v vs w hw).1
  have hb : bucket (least v vs) value < span v vs := bucket_lt hlow hhigh
  rw [countArea_stretchTable, List.getElem?_map, keyCounts,
    getElem?_countRows (least v vs) (v :: vs) hb, ← length_rowsIn _ _ 0,
    rowsIn_eq_idxsOf hcolumn hlow, List.length_idxsOf, Option.map_some, Int.ofNat_eq_natCast]

theorem offsetArea_zero_stretchTable : (stretchTable key device v vs).offsetArea[0]? = some 0 := by
  have hpos : 0 < span v vs := Nat.zero_lt_of_lt (inside_span v vs v List.mem_cons_self).2
  rw [offsetArea_stretchTable, List.getElem?_map,
    getElem?_offsetsFrom (List.getElem?_eq_getElem (by rw [length_keyCounts]; exact hpos))]
  rfl

/-- The stretches follow one another, and the last one ends with the last row. -/
theorem offsetArea_succ_stretchTable {b : Nat} {offset count : Int}
    (hoffset : (stretchTable key device v vs).offsetArea[b]? = some offset)
    (hcount : (stretchTable key device v vs).countArea[b]? = some count) :
    ((stretchTable key device v vs).offsetArea ++ [((v :: vs).length : Int)])[b + 1]? =
      some (offset + count) := by
  rw [offsetArea_stretchTable, List.getElem?_map, Option.map_eq_some_iff] at hoffset
  rw [countArea_stretchTable, List.getElem?_map, Option.map_eq_some_iff] at hcount
  obtain ⟨n, hn, rfl⟩ := hoffset
  obtain ⟨c, hc, rfl⟩ := hcount
  have hsum : 0 + (keyCounts v vs).sum = (v :: vs).length := by
    rw [Nat.zero_add, keyCounts, sum_countRows (inside_span v vs)]
  have hnext := getElem?_offsetsFrom_succ hc hn
  rw [hsum] at hnext
  have hmap := congrArg (Option.map Int.ofNat) hnext
  rw [← List.getElem?_map, List.map_append] at hmap
  rw [offsetArea_stretchTable]
  exact hmap

theorem rowArea_perm_stretchTable : (stretchTable key device v vs).rowArea.Perm
    ((List.range (v :: vs).length).map Int.ofNat) := by
  -- Every row stands in the stretch of its key, and there are no more places than rows.
  have hnodup : ((List.range (v :: vs).length).map Int.ofNat).Nodup :=
    List.nodup_range.map fun _ _ => Int.ofNat.inj
  have hsubset : (List.range (v :: vs).length).map Int.ofNat ⊆
      (stretchTable key device v vs).rowArea := by
    intro x hx
    obtain ⟨r, hr, rfl⟩ := List.mem_map.mp hx
    have hlt := List.mem_range.mp hr
    have hmem := List.getElem_mem hlt
    have hstretch := stretch_stretchTable key device v vs (least_le hmem) (le_greatest hmem)
    have hin : r ∈ (v :: vs).idxsOf (v :: vs)[r] :=
      (List.mem_idxsOf_iff_getElem_pos hlt).mpr BEq.rfl
    have hin' := List.mem_map_of_mem (f := Int.ofNat) hin
    rw [← hstretch, stretch] at hin'
    exact List.mem_of_mem_drop (List.mem_of_mem_take hin')
  refine ((List.subperm_of_subset hnodup hsubset).perm_of_length_le ?_).symm
  rw [length_rowArea_stretchTable, List.length_map, List.length_range]

end

theorem emptySlot_not_mem_map_ofNat (rows : List Nat) : emptySlot ∉ rows.map Int.ofNat := by
  intro h
  obtain ⟨r, _, hr⟩ := List.mem_map.mp h
  cases hr

/-- A column whose rows can be numbered and whose keys are close enough, two rows having one key, gets a
one-to-many table, and building it neither leaves an array nor the words it runs on. The slots are an offset
and a count for every key in the range, and then the rows: from each offset on, as many as counted, stand the
rows of that key in ascending order. These stretches lie side by side from the first slot of the rows to the
last one, so that the rows are all rows of the column and no slot is empty. -/
theorem one_to_many_table (key : Option ArtifactKey) (device : DeviceId) {column : List Int}
    {low high : Int} (hrows : column.length ≤ rowLimit) (hlow : column.min? = some low)
    (hhigh : column.max? = some high) (hrange : high - low + 1 ≤ 2 ^ 27) (hrepeated : ¬ column.Nodup) :
    ∃ t, buildPerfect key device column = some t ∧
      Checked.buildPerfect key device column = .ok (some t) ∧
      t.kind = .perfect low high ∧ t.layout = .oneToMany ∧ (t.entryCount : Int) = high - low + 1 ∧
      t.slots.size = 2 * t.entryCount + column.length ∧
      (∀ value, low ≤ value → value ≤ high →
        t.countArea[(value - low).toNat]? = some (column.count value : Int) ∧
        t.stretch (value - low).toNat = (column.idxsOf value).map Int.ofNat) ∧
      t.offsetArea[0]? = some 0 ∧
      (∀ b offset count, t.offsetArea[b]? = some offset → t.countArea[b]? = some count →
        (t.offsetArea ++ [(column.length : Int)])[b + 1]? = some (offset + count)) ∧
      t.rowArea.Perm ((List.range column.length).map Int.ofNat) ∧ emptySlot ∉ t.rowArea := by
  cases column with
  | nil => cases hlow
  | cons v vs =>
    rw [min?_eq_least] at hlow
    rw [max?_eq_greatest] at hhigh
    cases hlow
    cases hhigh
    have hle : least v vs ≤ greatest v vs :=
      (least_le List.mem_cons_self).trans (le_greatest (w := v) List.mem_cons_self)
    have hspan : span v vs ≤ rangeLimit := by
      rw [span, rangeLimit]
      omega
    have hbuild : buildPerfect key device (v :: vs) = some (stretchTable key device v vs) := by
      rcases buildPerfect_cases key device v vs with ⟨hlimits, _⟩ | ⟨_, _, ⟨hnodup, _⟩ | ⟨_, hbuild⟩⟩
      · omega
      · exact absurd hnodup hrepeated
      · exact hbuild
    have hperm := rowArea_perm_stretchTable key device v vs
    refine ⟨_, hbuild, ?_, rfl, rfl, ?_, size_slots_stretchTable key device v vs, ?_,
      offsetArea_zero_stretchTable key device v vs, ?_, hperm, ?_⟩
    · rw [Checked.buildPerfect_eq_ok, hbuild]
    · have hentries : (stretchTable key device v vs).entryCount = span v vs := rfl
      rw [hentries, span]
      omega
    · intro value hvlow hvhigh
      exact ⟨countArea_getElem?_stretchTable key device v vs hvlow hvhigh,
        stretch_stretchTable key device v vs hvlow hvhigh⟩
    · intro b offset count hoffset hcount
      exact offsetArea_succ_stretchTable key device v vs hoffset hcount
    · intro hmem
      exact emptySlot_not_mem_map_ofNat _ (hperm.mem_iff.mp hmem)

/- Keys on both sides of zero, two of them twice, and a key in the range that no row has. -/
theorem one_to_many_table_of_five_rows :
    let column : List Int := [-2, 3, -2, 0, 3]
    (column.length ≤ rowLimit ∧ column.min? = some (-2) ∧ column.max? = some 3 ∧
      (3 : Int) - -2 + 1 ≤ 2 ^ 27 ∧ ¬ column.Nodup) ∧
    ∃ t, buildPerfect none DeviceId.cpu column = some t ∧ t.layout = .oneToMany ∧ t.slots.size = 17 ∧
      t.stretch 0 = [0, 2] ∧ t.stretch 2 = [3] ∧ t.stretch 3 = [] ∧ t.stretch 5 = [1, 4] := by
  intro column
  have hrows : column.length ≤ rowLimit := by decide
  have hlow : column.min? = some (-2) := rfl
  have hhigh : column.max? = some 3 := rfl
  have hrange : (3 : Int) - -2 + 1 ≤ 2 ^ 27 := by decide
  have hrepeated : ¬ column.Nodup := by decide
  obtain ⟨t, hbuild, _, _, hlayout, hentries, hsize, hkeys, _⟩ :=
    one_to_many_table none DeviceId.cpu hrows hlow hhigh hrange hrepeated
  refine ⟨⟨hrows, hlow, hhigh, hrange, hrepeated⟩, t, hbuild, hlayout, ?_, ?_, ?_, ?_, ?_⟩
  · have hlength : column.length = 5 := rfl
    omega
  · exact (hkeys (-2) (by decide) (by decide)).2
  · exact (hkeys 0 (by decide) (by decide)).2
  · exact (hkeys 1 (by decide) (by decide)).2
  · exact (hkeys 3 (by decide) (by decide)).2

end PlanReuse.JoinTable
