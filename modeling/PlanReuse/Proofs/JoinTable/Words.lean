import PlanReuse.Proofs.JoinTable.Filling

/-!
# Building and probing on words

The loops over a column once more, as they run on signed words of 32 and 64 bits and on arrays with bounds.
A number that does not fit or an index out of range would stop them; neither ever happens.
-/

namespace PlanReuse.JoinTable

/-- What stops a computation on words. -/
inductive Fault
  | index
  | overflow
deriving DecidableEq

namespace Checked

/-! ### Words and indices -/

/-- A number as a signed word of 64 bits, if it is one. -/
def long (n : Int) : Except Fault Int :=
  if -9223372036854775808 ≤ n ∧ n ≤ 9223372036854775807 then .ok n else .error .overflow

/-- A number as a signed word of 32 bits, if it is one. -/
def int (n : Int) : Except Fault Int :=
  if -2147483648 ≤ n ∧ n ≤ 2147483647 then .ok n else .error .overflow

/-- The element at an index that the array has. -/
def read {β : Type} (xs : Array β) (i : Nat) : Except Fault β :=
  match xs[i]? with
  | some x => .ok x
  | none => .error .index

/-- The array with another element at one of its indices. -/
def write {β : Type} (xs : Array β) (i : Nat) (x : β) : Except Fault (Array β) :=
  if i < xs.size then .ok (xs.setIfInBounds i x) else .error .index

/-- The distance of a key from the least one as an index; a negative one is beyond every array. -/
def slot (low value : Int) : Except Fault Nat := do
  let distance ← long (value - low)
  if distance < 0 then throw .index else pure distance.toNat

/-! ### Building -/

/-- The distance from the least to the greatest key, one included, if it is not too large. -/
def range? (low high : Int) : Option Nat :=
  match long (high - low) with
  | .error _ => none
  | .ok span => if 0 ≤ span ∧ span.toNat + 1 ≤ rangeLimit then some (span.toNat + 1) else none

def countRows (low : Int) : List Int → Array Nat → Except Fault (Array Nat)
  | [], counts => pure counts
  | v :: vs, counts => do
    let b ← slot low v
    let count ← read counts b
    let next ← int (count + 1 : Nat)
    countRows low vs (← write counts b next.toNat)

def placeSingle (low : Int) : Nat → List Int → Array Int → Except Fault (Array Int)
  | _, [], slots => pure slots
  | row, v :: vs, slots => do
    let number ← int row
    placeSingle low (row + 1) vs (← write slots (← slot low v) number)

def offsetsFrom : Nat → List Nat → Except Fault (List Nat)
  | _, [] => pure []
  | start, c :: cs => do
    let next ← int (start + c : Nat)
    return start :: (← offsetsFrom next.toNat cs)

def placeAll (low : Int) : Nat → List Int → Array Nat → Array Int → Except Fault (Array Int)
  | _, [], _, rows => pure rows
  | row, v :: vs, cursors, rows => do
    let b ← slot low v
    let cursor ← read cursors b
    let rows ← write rows cursor (← int row)
    let next ← int (cursor + 1 : Nat)
    placeAll low (row + 1) vs (← write cursors b next.toNat) rows

def buildPerfect (key : Option ArtifactKey) (device : DeviceId) :
    List Int → Except Fault (Option JoinTable)
  | [] => pure none
  | v :: vs => do
    let low := least v vs
    let high := greatest v vs
    match range? low high with
    | none => pure none
    | some range =>
      if (v :: vs).length ≤ rowLimit then
        let table (layout : JoinLayout) (slots : Array Int) : JoinTable :=
          { kind := .perfect low high, layout, key, device, entryCount := range, slots }
        let counts ← countRows low (v :: vs) (Array.replicate range 0)
        if counts.all (· ≤ 1) then
          return some (table .oneToOne (← placeSingle low 0 (v :: vs) (Array.replicate range emptySlot)))
        else
          let offsets := (← offsetsFrom 0 counts.toList).toArray
          let rows ← placeAll low 0 (v :: vs) offsets (Array.replicate (v :: vs).length emptySlot)
          return some (table .oneToMany (offsets.map Int.ofNat ++ counts.map Int.ofNat ++ rows))
      else pure none

def probe (t : JoinTable) (value : Int) : Except Fault Probe :=
  match t.kind, t.layout with
  | .perfect least greatest, .oneToOne =>
    if least ≤ value ∧ value ≤ greatest then do
      let row ← read t.slots (← slot least value)
      return if row = emptySlot then .absent else .row row
    else pure .absent
  | _, _ => pure .absent

/-! ### Words and indices that fit -/

theorem ok_bind {β γ : Type} (x : β) (f : β → Except Fault γ) : (Except.ok x >>= f) = f x := rfl

theorem int_natCast {n : Nat} (h : n ≤ rowLimit) : int n = .ok n := by
  rw [int, if_pos]
  rw [rowLimit] at h
  omega

theorem read_eq_ok {β : Type} {xs : Array β} {i : Nat} {x : β} (h : xs[i]? = some x) :
    read xs i = .ok x := by
  rw [read, h]

theorem write_eq_ok {β : Type} {xs : Array β} {i : Nat} (h : i < xs.size) (x : β) :
    write xs i x = .ok (xs.setIfInBounds i x) := if_pos h

theorem slot_eq_ok {low v : Int} {range : Nat} (hrange : range ≤ rangeLimit) (hlow : low ≤ v)
    (hv : bucket low v < range) : slot low v = .ok (bucket low v) := by
  rw [rangeLimit] at hrange
  rw [bucket] at hv ⊢
  have hlong : long (v - low) = .ok (v - low) := if_pos (by omega)
  rw [slot, hlong]
  exact if_neg (by omega)

/-! ### The loops -/

variable {low : Int} {range : Nat} {column : List Int}

theorem modify_succ {counts : Array Nat} {b n : Nat} (h : counts[b]? = some n) :
    counts.modify b (· + 1) = counts.setIfInBounds b (n + 1) := by
  apply Array.ext_getElem?
  intro i
  rw [Array.getElem?_modify, Array.getElem?_setIfInBounds]
  by_cases hi : b = i
  · subst hi
    rw [if_pos rfl, if_pos rfl, if_pos (Array.getElem?_eq_some_iff.mp h).1, h, Option.map_some]
  · rw [if_neg hi, if_neg hi]

theorem countRows_eq_ok (hrange : range ≤ rangeLimit) (hinside : Inside low range column)
    {counts : Array Nat} (hsize : counts.size = range)
    (hroom : ∀ n ∈ counts, n + column.length ≤ rowLimit) :
    countRows low column counts =
      .ok (column.foldl (fun counts v => counts.modify (bucket low v) (· + 1)) counts) := by
  induction column generalizing counts with
  | nil => rfl
  | cons v vs ih =>
    obtain ⟨hlow, hv⟩ := hinside v List.mem_cons_self
    have hb : bucket low v < counts.size := hsize ▸ hv
    have hread := Array.getElem?_eq_getElem hb
    have hcount := hroom counts[bucket low v] (Array.getElem_mem hb)
    rw [List.length_cons] at hroom hcount
    rw [countRows, slot_eq_ok hrange hlow hv, ok_bind, read_eq_ok hread, ok_bind,
      int_natCast (by omega), ok_bind, Int.toNat_natCast, write_eq_ok hb, ok_bind, List.foldl_cons,
      modify_succ hread]
    refine ih (fun w hw => hinside w (List.mem_cons_of_mem v hw)) ?_ ?_
    · rw [Array.size_setIfInBounds, hsize]
    · intro n hn
      rcases Array.mem_or_eq_of_mem_setIfInBounds hn with hold | rfl
      · have hle := hroom n hold
        omega
      · omega

theorem placeSingle_eq_ok (hrange : range ≤ rangeLimit) (hinside : Inside low range column) {row : Nat}
    (hrows : row + column.length ≤ rowLimit) {slots : Array Int} (hsize : slots.size = range) :
    placeSingle low row column slots = .ok (JoinTable.placeSingle low row column slots) := by
  induction column generalizing row slots with
  | nil => rfl
  | cons v vs ih =>
    obtain ⟨hlow, hv⟩ := hinside v List.mem_cons_self
    rw [List.length_cons] at hrows
    rw [placeSingle, int_natCast (by omega), ok_bind, slot_eq_ok hrange hlow hv, ok_bind,
      write_eq_ok (hsize ▸ hv), ok_bind]
    refine ih (fun w hw => hinside w (List.mem_cons_of_mem v hw)) (by omega) ?_
    rw [Array.size_setIfInBounds, hsize]

theorem offsetsFrom_eq_ok {start : Nat} {counts : List Nat} (h : start + counts.sum ≤ rowLimit) :
    offsetsFrom start counts = .ok (JoinTable.offsetsFrom start counts) := by
  induction counts generalizing start with
  | nil => rfl
  | cons c cs ih =>
    rw [List.sum_cons] at h
    rw [offsetsFrom, int_natCast (by omega), ok_bind, Int.toNat_natCast, ih (by omega), ok_bind]
    rfl

/-- Each cursor can move on once for every row that is still to come to its bucket. -/
theorem placeAll_eq_ok (hrange : range ≤ rangeLimit) (hinside : Inside low range column) {row : Nat}
    (hrows : row + column.length ≤ rowLimit) {cursors : Array Nat} (hsize : cursors.size = range)
    {rows : Array Int} (hlength : rows.size ≤ rowLimit)
    (hroom : ∀ b n, cursors[b]? = some n → n + (column.map (bucket low)).count b ≤ rows.size) :
    placeAll low row column cursors rows = .ok (JoinTable.placeAll low row column cursors rows) := by
  induction column generalizing row cursors rows with
  | nil => rfl
  | cons v vs ih =>
    obtain ⟨hlow, hv⟩ := hinside v List.mem_cons_self
    have hb : bucket low v < cursors.size := hsize ▸ hv
    have hread := Array.getElem?_eq_getElem hb
    have hcursor := hroom _ _ hread
    rw [List.map_cons, List.count_cons_self] at hcursor
    rw [List.length_cons] at hrows
    rw [placeAll, slot_eq_ok hrange hlow hv, ok_bind, read_eq_ok hread, ok_bind,
      int_natCast (by omega), ok_bind, write_eq_ok (by omega), ok_bind, int_natCast (by omega), ok_bind,
      Int.toNat_natCast, write_eq_ok hb, ok_bind, JoinTable.placeAll]
    simp only [hread, Option.getD_some, modify_succ hread]
    refine ih (fun w hw => hinside w (List.mem_cons_of_mem v hw)) (by omega) ?_ ?_ ?_
    · rw [Array.size_setIfInBounds, hsize]
    · rw [Array.size_setIfInBounds]
      exact hlength
    · intro b n hn
      rw [Array.size_setIfInBounds]
      rw [Array.getElem?_setIfInBounds] at hn
      by_cases hbucket : bucket low v = b
      · subst hbucket
        rw [if_pos rfl, if_pos hb] at hn
        cases hn
        omega
      · rw [if_neg hbucket] at hn
        have hold := hroom b n hn
        rw [List.map_cons, List.count_cons_of_ne hbucket] at hold
        exact hold

/-! ### Whole tables -/

/-- The number of buckets is that of exact arithmetic. -/
theorem range?_eq (v : Int) (vs : List Int) :
    range? (least v vs) (greatest v vs) = if span v vs ≤ rangeLimit then some (span v vs) else none := by
  have hle : least v vs ≤ greatest v vs :=
    (least_le List.mem_cons_self).trans (le_greatest (w := v) List.mem_cons_self)
  have hspan : span v vs = (greatest v vs - least v vs).toNat + 1 := by
    rw [span]
    omega
  rw [range?, long, hspan, rangeLimit]
  by_cases hlong : -9223372036854775808 ≤ greatest v vs - least v vs ∧
      greatest v vs - least v vs ≤ 9223372036854775807
  · have hpos : 0 ≤ greatest v vs - least v vs := by omega
    rw [if_pos hlong]
    simp only [hpos, true_and]
  · rw [if_neg hlong, if_neg (by omega)]

theorem stretches_eq_ok {v : Int} {vs : List Int} (hspan : span v vs ≤ rangeLimit)
    (hrows : (v :: vs).length ≤ rowLimit) :
    let counts := JoinTable.countRows (least v vs) (span v vs) (v :: vs)
    let offsets := JoinTable.offsetsFrom 0 counts.toList
    let rows := Array.replicate (v :: vs).length emptySlot
    offsetsFrom 0 counts.toList = .ok offsets ∧
      placeAll (least v vs) 0 (v :: vs) offsets.toArray rows =
        .ok (JoinTable.placeAll (least v vs) 0 (v :: vs) offsets.toArray rows) := by
  intro counts offsets rows
  have hinside := inside_span v vs
  have hsum : counts.toList.sum = (v :: vs).length := sum_countRows hinside
  have hsize : rows.size = (v :: vs).length := Array.size_replicate
  refine ⟨offsetsFrom_eq_ok (by omega), placeAll_eq_ok hspan hinside (by omega) ?_ (by omega) ?_⟩
  · rw [List.size_toArray, length_offsetsFrom, Array.length_toList, size_countRows]
  · intro b n hn
    rw [List.getElem?_toArray] at hn
    have hb := (List.getElem?_eq_some_iff.mp hn).1
    rw [length_offsetsFrom, Array.length_toList, size_countRows] at hb
    have hle : n + _ ≤ 0 + counts.toList.sum :=
      offset_add_le (getElem?_countRows (least v vs) (v :: vs) hb) hn
    omega

/-- Building a perfect table never overflows and never leaves an array. -/
theorem buildPerfect_eq_ok (key : Option ArtifactKey) (device : DeviceId) (column : List Int) :
    buildPerfect key device column = .ok (JoinTable.buildPerfect key device column) := by
  cases column with
  | nil => rfl
  | cons v vs =>
    have hinside := inside_span v vs
    rw [buildPerfect, range?_eq, buildPerfect_cons]
    by_cases hspan : span v vs ≤ rangeLimit
    · rw [if_pos hspan]
      by_cases hrows : (v :: vs).length ≤ rowLimit
      · have hcounts : countRows (least v vs) (v :: vs) (Array.replicate (span v vs) 0) =
            .ok (JoinTable.countRows (least v vs) (span v vs) (v :: vs)) := by
          refine countRows_eq_ok hspan hinside Array.size_replicate fun n hn => ?_
          rw [(Array.mem_replicate.mp hn).2, Nat.zero_add]
          exact hrows
        rw [if_pos (And.intro hspan hrows)]
        simp only [if_pos hrows, hcounts, ok_bind]
        split
        · rw [placeSingle_eq_ok hspan hinside (by omega) Array.size_replicate]
          rfl
        · obtain ⟨hoffsets, hplaced⟩ := stretches_eq_ok hspan hrows
          rw [hoffsets, ok_bind, hplaced]
          rfl
      · rw [if_neg fun h => hrows h.2]
        simp only [if_neg hrows]
        rfl
    · rw [if_neg hspan, if_neg fun h => hspan h.1]
      rfl

/-- Probing a perfect table never overflows and never leaves its slots. -/
theorem probe_eq_ok {key : Option ArtifactKey} {device : DeviceId} {t : JoinTable}
    (h : JoinTable.buildPerfect key device column = some t) (value : Int) :
    probe t value = .ok (t.probe value) ∧ t.probe value ≠ .outOfSlots := by
  obtain ⟨v, vs, rfl, hspan, ⟨_, rfl⟩ | ⟨_, rfl⟩⟩ := exists_of_buildPerfect_eq_some h
  · rw [probe, JoinTable.probe, singleTable]
    by_cases hvalue : least v vs ≤ value ∧ value ≤ greatest v vs
    · have hslot : bucket (least v vs) value < span v vs := bucket_lt hvalue.1 hvalue.2
      have hsize : bucket (least v vs) value < (JoinTable.placeSingle (least v vs) 0 (v :: vs)
          (Array.replicate (span v vs) emptySlot)).size := by
        rw [size_placeSingle, Array.size_replicate]
        exact hslot
      obtain ⟨row, hread⟩ : ∃ row, _ = some row := ⟨_, Array.getElem?_eq_getElem hsize⟩
      simp only [if_pos hvalue, slot_eq_ok hspan hvalue.1 hslot, ok_bind, read_eq_ok hread]
      rw [bucket] at hread
      simp only [hread]
      split
      · exact ⟨rfl, Probe.noConfusion⟩
      · exact ⟨rfl, Probe.noConfusion⟩
    · simp only [if_neg hvalue]
      exact ⟨rfl, Probe.noConfusion⟩
  · exact ⟨rfl, Probe.noConfusion⟩

end Checked

end PlanReuse.JoinTable
