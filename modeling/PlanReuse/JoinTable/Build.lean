import PlanReuse.JoinTable.Basic
import PlanReuse.Log

/-!
# Building join tables

A perfect table is a counting sort of the rows by key: count the rows of each key, give each key the
stretch after the keys below it, and put the rows down in turn. If no key has two rows, one slot for
each key is enough. Keys too far apart go into a baseline table instead.
-/

namespace PlanReuse.JoinTable

/-- The greatest distance between keys, one included, that a perfect table spans: `2 ^ 27`. -/
def rangeLimit : Nat := 134217728

/-- The greatest row number that a slot can hold: `2 ^ 31 - 1`. -/
def rowLimit : Nat := 2147483647

def least : Int → List Int → Int
  | m, [] => m
  | m, v :: vs => least (min m v) vs

def greatest : Int → List Int → Int
  | m, [] => m
  | m, v :: vs => greatest (max m v) vs

/-! ### Perfect tables -/

/-- The bucket of a key. -/
def bucket (low : Int) (value : Int) : Nat := (value - low).toNat

/-- The number of rows in each bucket. -/
def countRows (low : Int) (range : Nat) (column : List Int) : Array Nat :=
  column.foldl (fun counts v => counts.modify (bucket low v) (· + 1)) (Array.replicate range 0)

/-- The row of each bucket, the last one if there are several; `row` numbers the first of the column. -/
def placeSingle (low : Int) : Nat → List Int → Array Int → Array Int
  | _, [], slots => slots
  | row, v :: vs, slots => placeSingle low (row + 1) vs (slots.setIfInBounds (bucket low v) (row : Int))

/-- Where each stretch begins when the stretches lie side by side. -/
def offsetsFrom : Nat → List Nat → List Nat
  | _, [] => []
  | start, c :: cs => start :: offsetsFrom (start + c) cs

/-- Puts each row at the cursor of its bucket and moves the cursor on. -/
def placeAll (low : Int) : Nat → List Int → Array Nat → Array Int → Array Int
  | _, [], _, rows => rows
  | row, v :: vs, cursors, rows =>
    let b := bucket low v
    placeAll low (row + 1) vs (cursors.modify b (· + 1))
      (rows.setIfInBounds (cursors[b]?.getD 0) (row : Int))

/-- Offsets, counts and rows, one after the other. -/
def oneToManySlots (low : Int) (counts : Array Nat) (column : List Int) : Array Int :=
  let offsets := (offsetsFrom 0 counts.toList).toArray
  let rows := placeAll low 0 column offsets (Array.replicate column.length emptySlot)
  offsets.map Int.ofNat ++ counts.map Int.ofNat ++ rows

/-- The perfect table of a column, if the column has a row, its keys are close enough, and its rows can
be numbered. -/
def buildPerfect (key : Option ArtifactKey) (device : DeviceId) : List Int → Option JoinTable
  | [] => none
  | v :: vs =>
    let low := least v vs
    let high := greatest v vs
    let range := (high - low + 1).toNat
    if range ≤ rangeLimit ∧ (v :: vs).length ≤ rowLimit then
      let counts := countRows low range (v :: vs)
      let table (layout : JoinLayout) (slots : Array Int) : JoinTable :=
        { kind := .perfect low high, layout, key, device, entryCount := range, slots }
      if counts.all (· ≤ 1) then
        some (table .oneToOne (placeSingle low 0 (v :: vs) (Array.replicate range emptySlot)))
      else some (table .oneToMany (oneToManySlots low counts (v :: vs)))
    else none

/-! ### Baseline tables -/

/-- Composite keys are compared component by component; a key that ends first is less. -/
def compareKeys : List Int → List Int → Ordering
  | [], [] => .eq
  | [], _ :: _ => .lt
  | _ :: _, [] => .gt
  | a :: as, b :: bs => if a < b then .lt else if b < a then .gt else compareKeys as bs

/-- Adds a row to the group of its key; the groups stay in the order of their keys. -/
def insertRow (composite : List Int) (row : Nat) : List (List Int × List Nat) → List (List Int × List Nat)
  | [] => [(composite, [row])]
  | (k, rows) :: groups =>
    match compareKeys composite k with
    | .lt => (composite, [row]) :: (k, rows) :: groups
    | .eq => (k, rows ++ [row]) :: groups
    | .gt => (k, rows) :: insertRow composite row groups

/-- The rows of each composite key, from row number `row` on. -/
def groupRows : Nat → List (List Int) → List (List Int × List Nat) → List (List Int × List Nat)
  | _, [], groups => groups
  | row, c :: cs, groups => groupRows (row + 1) cs (insertRow c row groups)

/-- The baseline table of a list of composite keys, if its rows can be numbered. -/
def buildBaseline (key : Option ArtifactKey) (device : DeviceId) (composites : List (List Int)) :
    Option JoinTable :=
  if composites.length ≤ rowLimit + 1 then
    let groups := groupRows 0 composites []
    some
      { kind := .baseline ((composites.head?.map List.length).getD 0)
        layout := if groups.all (fun g => g.2.length == 1) then .oneToOne else .oneToMany
        key
        device
        entryCount := groups.length
        slots := ((groups.flatMap Prod.snd).map Int.ofNat).toArray }
  else none

/-! ### Choice of the kind -/

/-- The perfect table of a column, or else its baseline table; an empty column has none. -/
def build (key : Option ArtifactKey) (device : DeviceId) (column : List Int) : Option JoinTable :=
  if column.isEmpty then none
  else buildPerfect key device column <|> buildBaseline key device (column.map fun v => [v])

/-- What a choice of the kind says: that the keys were too far apart. -/
def chooseLines (column : List Int) : List Log.Line :=
  if column.isEmpty || (buildPerfect none DeviceId.cpu column).isSome then []
  else [Log.debug "连接列键范围过大，改用基线哈希表"]

/-! ### Sources -/

/-- What a join table is made from. -/
inductive Source
  /-- A column of keys; the kind is chosen by their range. -/
  | column (keys : List Int)
  /-- A column of keys for a perfect table and no other. -/
  | perfect (keys : List Int)
  | composite (keys : List (List Int))
  /-- A table made elsewhere. -/
  | made (kind : JoinTableKind) (layout : JoinLayout) (entryCount : Nat) (slots : Array Int)

/-- The table of a source, if it gives one. -/
def Source.build (key : Option ArtifactKey) (device : DeviceId) : Source → Option JoinTable
  | .column keys => JoinTable.build key device keys
  | .perfect keys => buildPerfect key device keys
  | .composite keys => buildBaseline key device keys
  | .made kind layout entryCount slots => some { kind, layout, key, device, entryCount, slots }

def Source.lines : Source → List Log.Line
  | .column keys => chooseLines keys
  | _ => []

end PlanReuse.JoinTable
