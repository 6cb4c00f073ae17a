import PlanReuse.Script.Text

/-!
# Changes between texts

What has to be taken out of a text and put into it to make another one of it: the lines that the two have
in common are kept, as many as can be found by walking along the diagonals from both ends.
-/

namespace PlanReuse.Script


namespace Changes

/-- The rows that are compared, by their kinds. -/
structure Pair where
  xs : Array Nat
  ys : Array Nat

namespace Pair

def same (p : Pair) (x y : Nat) : Bool := p.xs[x]? == p.ys[y]?

/-- The end of the common rows from two places on. -/
def forth (p : Pair) (xEnd yEnd : Nat) : Nat → Nat → Nat → Nat
  | 0, x, _ => x
  | fuel + 1, x, y => if x < xEnd && y < yEnd && p.same x y then p.forth xEnd yEnd fuel (x + 1) (y + 1) else x

/-- The start of the common rows in front of two places. -/
def back (p : Pair) (xStart yStart : Nat) : Nat → Nat → Nat → Nat
  | 0, x, _ => x
  | fuel + 1, x, y =>
    if xStart < x && yStart < y && p.same (x - 1) (y - 1) then p.back xStart yStart fuel (x - 1) (y - 1) else x

end Pair

/-- How far searches have come on each diagonal, and the diagonals that they have reached. -/
structure Front where
  reached : Array Int
  low : Int
  high : Int

namespace Front

/-- The place of a diagonal. -/
def index (offset d : Int) : Nat := (d + offset).toNat

def at_ (f : Front) (offset d : Int) : Int := f.reached.getD (index offset d) 0

def put (f : Front) (offset d x : Int) : Front := { f with reached := f.reached.setIfInBounds (index offset d) x }

/-- One more diagonal on each side, where there is one. -/
def widen (f : Front) (offset least most unreached : Int) : Front :=
  let f := if least < f.low then { f with low := f.low - 1 }.put offset (f.low - 2) unreached
    else { f with low := f.low + 1 }
  if f.high < most then { f with high := f.high + 1 }.put offset (f.high + 2) unreached
  else { f with high := f.high - 1 }

/-- Its diagonals, every other one, from the highest. -/
def diagonals (f : Front) : List Int :=
  (List.range ((f.high - f.low) / 2 + 1).toNat).map fun (i : Nat) => f.high - 2 * (i : Int)

end Front

/-- A step of the search from the start; where it meets the other one if it does. -/
def stepForth (p : Pair) (xEnd yEnd : Nat) (offset : Int) (other : Front) (meets : Bool) :
    List Int → Front → Front × Option (Nat × Nat)
  | [], f => (f, none)
  | d :: ds, f =>
    let below := f.at_ offset (d - 1)
    let above := f.at_ offset (d + 1)
    let x := if below < above then above else below + 1
    let x : Int := p.forth xEnd yEnd (xEnd + 1) x.toNat (x - d).toNat
    let f := f.put offset d x
    if meets && other.low ≤ d && d ≤ other.high && other.at_ offset d ≤ x then (f, some (x.toNat, (x - d).toNat))
    else stepForth p xEnd yEnd offset other meets ds f

/-- A step of the search from the end. -/
def stepBack (p : Pair) (xStart yStart : Nat) (offset : Int) (other : Front) (meets : Bool) :
    List Int → Front → Front × Option (Nat × Nat)
  | [], f => (f, none)
  | d :: ds, f =>
    let below := f.at_ offset (d - 1)
    let above := f.at_ offset (d + 1)
    let x := if below < above then below else above - 1
    let x : Int := p.back xStart yStart (x.toNat + 1) x.toNat (x - d).toNat
    let f := f.put offset d x
    if meets && other.low ≤ d && d ≤ other.high && x ≤ other.at_ offset d then (f, some (x.toNat, (x - d).toNat))
    else stepBack p xStart yStart offset other meets ds f

/-- Both searches in turn, until they meet. -/
def meeting (p : Pair) (xStart xEnd yStart yEnd : Nat) (offset : Int) : Nat → Front → Front → Nat × Nat
  | 0, _, _ => (xEnd, yEnd)
  | fuel + 1, f, b =>
    let least : Int := (xStart : Int) - yEnd
    let most : Int := (xEnd : Int) - yStart
    let odd := (((xStart : Int) - yStart) - ((xEnd : Int) - yEnd)) % 2 ≠ 0
    let f := f.widen offset least most (-1)
    match stepForth p xEnd yEnd offset b odd f.diagonals f with
    | (_, some m) => m
    | (f, none) =>
      let b := b.widen offset least most (Nat.pow 2 60)
      match stepBack p xStart yStart offset f (!odd) b.diagonals b with
      | (_, some m) => m
      | (b, none) => meeting p xStart xEnd yStart yEnd offset fuel f b

/-- The places that are not kept on both sides. -/
structure Edits where
  dropped : List Nat
  added : List Nat

/-- What is not kept between places: the common rows at both ends are, and the rest is cut in two where the
searches meet. -/
def between (p : Pair) : Nat → Nat → Nat → Nat → Nat → Edits → Edits
  | 0, _, _, _, _, e => e
  | fuel + 1, xStart, xEnd, yStart, yEnd, e =>
    let x := p.forth xEnd yEnd (xEnd + 1) xStart yStart
    let yStart := yStart + (x - xStart)
    let xStart := x
    let x := p.back xStart yStart (xEnd + 1) xEnd yEnd
    let yEnd := yEnd - (xEnd - x)
    let xEnd := x
    if xStart = xEnd then { e with added := (List.range (yEnd - yStart)).map (yStart + ·) ++ e.added }
    else if yStart = yEnd then { e with dropped := (List.range (xEnd - xStart)).map (xStart + ·) ++ e.dropped }
    else
      let offset : Int := p.ys.size + 2
      let size := p.xs.size + p.ys.size + 5
      let front (d x : Int) : Front := (Front.mk (Array.replicate size 0) d d).put offset d x
      let (xMiddle, yMiddle) := meeting p xStart xEnd yStart yEnd offset (xEnd + yEnd + 2)
        (front ((xStart : Int) - yStart) xStart) (front ((xEnd : Int) - yEnd) xEnd)
      between p fuel xMiddle xEnd yMiddle yEnd (between p fuel xStart xMiddle yStart yMiddle e)

/-! ### Rows that confuse -/

/-- What becomes of a row before the search: it is looked at, it has no like in the other text, or it has
so many that it may be left out. -/
inductive Doubt
  | none
  | certain
  | likely
deriving DecidableEq

/-- How many likes a row may have in a text of some rows. -/
def manyLikes : Nat → Nat → Nat → Nat
  | 0, _, many => many
  | fuel + 1, n, many => if n / 4 = 0 then many else manyLikes fuel (n / 4) (many * 2)

def doubtsOf (kinds others : Array Nat) : Array Doubt :=
  let counts := others.foldl (fun (c : Array Nat) k => c.setIfInBounds k (c.getD k 0 + 1))
    (Array.replicate (max (kinds.foldl max 0) (others.foldl max 0) + 1) 0)
  let many := manyLikes 64 (kinds.size / 64) 5
  kinds.map fun k =>
    let n := counts.getD k 0
    if n = 0 then .certain else if many < n then .likely else .none

/-- Doubts of a run from one end on that are dropped until three certain rows follow each other, or one
stands eight rows in. -/
def trimDoubts : Nat → Nat → List Doubt → List Doubt
  | _, _, [] => []
  | at_, row, d :: ds =>
    if 8 ≤ at_ ∧ d = .certain then d :: ds
    else
      match d with
      | .likely | .none => .none :: trimDoubts (at_ + 1) 0 ds
      | .certain => if row = 2 then d :: ds else d :: trimDoubts (at_ + 1) (row + 1) ds

/-- Rows of doubts of one sort. -/
def doubtRuns (run : List Doubt) : List (List Doubt) := run.splitBy fun a b => a == b

/-- The doubts of a run that begins and ends with a certain one. -/
def settleRun (run : List Doubt) : List Doubt :=
  let likely := run.count .likely
  if run.length < likely * 4 then run.map fun d => if d = .likely then .none else d
  else
    let minimum := manyLikes 64 (run.length / 4) 1 + 1
    let run := (doubtRuns run).flatMap fun r =>
      if r.head? = some .likely ∧ minimum ≤ r.length then r.map fun _ => .none else r
    (trimDoubts 0 0 (trimDoubts 0 0 run).reverse).reverse

/-- Likely doubts count only among certain ones. -/
def settle : Nat → List Doubt → List Doubt
  | 0, ds => ds
  | _, [] => []
  | fuel + 1, .certain :: ds =>
    let run := (Doubt.certain :: ds).takeWhile (· ≠ .none)
    let tail := run.reverse.takeWhile (· == .likely)
    let body := run.take (run.length - tail.length)
    settleRun body ++ tail.map (fun _ => .none) ++ settle fuel ((Doubt.certain :: ds).drop run.length)
  | fuel + 1, _ :: ds => .none :: settle fuel ds

/-! ### Moving changes -/

/-- Runs of changes on their way to the places where they are shown. -/
structure Shift where
  changed : Array Bool
  /-- Where the run starts and ends, and the place in the other text. -/
  start : Nat
  stop : Nat
  other : Nat

namespace Shift

variable (kinds : Array Nat) (others : Array Bool)

def isChanged (s : Shift) (i : Nat) : Bool := s.changed.getD i false

/-- The place behind a run of changes in the other text. -/
def passForth (others : Array Bool) : Nat → Nat → Nat
  | 0, j => j
  | fuel + 1, j => if others.getD j false then passForth others fuel (j + 1) else j

/-- The place in front of a run of changes that ends before a place. -/
def passBack (marks : Array Bool) : Nat → Nat → Nat
  | 0, j => j
  | fuel + 1, j => if j ≠ 0 && marks.getD (j - 1) false then passBack marks fuel (j - 1) else j

/-- Moves a run back as long as the row in front of it is like its last one. -/
def moveBack : Nat → Shift → Shift
  | 0, s => s
  | fuel + 1, s =>
    if s.start ≠ 0 && kinds[s.start - 1]? == kinds[s.stop - 1]? then
      let changed := (s.changed.setIfInBounds (s.start - 1) true).setIfInBounds (s.stop - 1) false
      moveBack fuel ⟨changed, passBack changed (s.start + 1) (s.start - 1), s.stop - 1,
        passBack others (s.other + 1) s.other - 1⟩
    else s

/-- Moves a run on as long as the row behind it is like its first one; where it has met a run in the other
text last. -/
def moveForth : Nat → Option Nat → Shift → Option Nat × Shift
  | 0, met, s => (met, s)
  | fuel + 1, met, s =>
    if s.stop < kinds.size && kinds[s.start]? == kinds[s.stop]? then
      let changed := (s.changed.setIfInBounds s.start false).setIfInBounds s.stop true
      let stop := passForth changed (kinds.size + 1) (s.stop + 1)
      let other := passForth others (others.size + 1) (s.other + 1)
      moveForth fuel (if other ≠ s.other + 1 then some stop else met) ⟨changed, s.start + 1, stop, other⟩
    else (met, s)

/-- Moves a run back and on until it grows no more. -/
def settleRun : Nat → Shift → Option Nat × Shift
  | 0, s => (none, s)
  | fuel + 1, s =>
    let length := s.stop - s.start
    let s := s.moveBack kinds others (kinds.size + 1)
    let met := if s.other ≠ 0 && others.getD (s.other - 1) false then some s.stop else none
    let (met, s) := s.moveForth kinds others (kinds.size + 1) met
    if s.stop - s.start = length then (met, s) else settleRun fuel s

/-- Moves a run back to where it has met one in the other text. -/
def backTo (goal : Nat) : Nat → Shift → Shift
  | 0, s => s
  | fuel + 1, s =>
    if goal < s.stop then
      let changed := (s.changed.setIfInBounds (s.start - 1) true).setIfInBounds (s.stop - 1) false
      backTo goal fuel ⟨changed, s.start - 1, s.stop - 1, passBack others (s.other + 1) s.other - 1⟩
    else s

/-- Moves the runs one after the other. -/
def runs : Nat → Nat → Nat → Array Bool → Array Bool
  | 0, _, _, changed => changed
  | fuel + 1, i, j, changed =>
    if kinds.size ≤ i then changed
    else if !changed.getD i false then
      runs fuel (i + 1) (passForth others (others.size + 1) j + 1) changed
    else
      let stop := passForth changed (kinds.size + 1) i
      let (met, s) := settleRun kinds others (kinds.size + 1)
        ⟨changed, i, stop, passForth others (others.size + 1) j⟩
      let s := match met with
        | some goal => s.backTo others goal (kinds.size + 1)
        | none => s
      runs fuel s.stop s.other s.changed

end Shift

/-! ### All together -/

/-- The numbers of the kinds of rows, equal for rows that are equal. -/
def kindsOf (rows : List (List Char)) : List Nat :=
  let sorted := rows.zipIdx.toArray.qsort fun a b =>
    match List.compareLex Ord.compare a.1 b.1 with
    | .lt => true
    | .eq => a.2 < b.2
    | .gt => false
  let (_, _, numbers) := sorted.foldl (fun (last, kind, (numbers : Array Nat)) (row, i) =>
    let kind := if last = some row then kind else kind + 1
    (some row, kind, numbers.setIfInBounds i kind)) ((none : Option (List Char)), 0, Array.replicate rows.length 0)
  numbers.toList

/-- A part of a change: so many rows from a place on are taken out, and so many put in. -/
structure Hunk where
  first : Nat
  dropped : Nat
  second : Nat
  added : Nat

/-- The changes that marks show. -/
def hunksOf (dropped added : Array Bool) : Nat → Nat → Nat → List Hunk
  | 0, _, _ => []
  | fuel + 1, i, j =>
    if dropped.size ≤ i && added.size ≤ j then []
    else
      let i' := Shift.passForth dropped (dropped.size + 1) i
      let j' := Shift.passForth added (added.size + 1) j
      let rest := hunksOf dropped added fuel (i' + 1) (j' + 1)
      if i = i' && j = j' then rest else ⟨i, i' - i, j, j' - j⟩ :: rest

/-- The changes between rows. -/
def search (minimal : Bool) (xs ys : Array Nat) : List Hunk :=
  let undoubted (kinds others : Array Nat) : Array (Nat × Nat) :=
    let doubts := settle (kinds.size + 1) (doubtsOf kinds others).toList
    ((kinds.toList.zipIdx.zip doubts).filter fun (_, d) => minimal || d == .none).map Prod.fst |>.toArray
  let a := undoubted xs ys
  let b := undoubted ys xs
  let e := between ⟨a.map Prod.fst, b.map Prod.fst⟩ (a.size + b.size + 2) 0 a.size 0 b.size ⟨[], []⟩
  let marks (kinds : Array Nat) (kept : Array (Nat × Nat)) (places : List Nat) : Array Bool :=
    let all := kept.foldl (fun (m : Array Bool) k => m.setIfInBounds k.2 false) (Array.replicate kinds.size true)
    places.foldl (fun m p => m.setIfInBounds ((kept.getD p (0, 0)).2) true) all
  let dropped := marks xs a e.dropped
  let added := marks ys b e.added
  let dropped := Shift.runs xs added (2 * xs.size + 2) 0 0 dropped
  let added := Shift.runs ys dropped (2 * ys.size + 2) 0 0 added
  hunksOf dropped added (xs.size + ys.size + 2) 0 0

/-- How many rows are the same in front. -/
def commonFront (xs ys : List Nat) : Nat := ((xs.zip ys).takeWhile fun (x, y) => x == y).length

/-- The changes between two texts. The rows that are the same at both ends are left out, but for some near
the changes. -/
def ofRows (minimal : Bool) (horizon : Nat) (keepsTail : Bool) (xs ys : List (List Char)) (kinds : List Nat) :
    List Hunk :=
  let ks := kinds.take xs.length
  let ls := kinds.drop xs.length
  let exact := kindsOf (xs ++ ys)
  let front := commonFront (exact.take xs.length) (exact.drop xs.length) - horizon
  let tail := if keepsTail then 0
    else commonFront ((exact.take xs.length).drop front).reverse ((exact.drop xs.length).drop front).reverse
  let tail := tail - horizon
  let body (ns : List Nat) : Array Nat := ((ns.take (ns.length - tail)).drop front).toArray
  (search minimal (body ks) (body ls)).map fun h => { h with first := h.first + front, second := h.second + front }

theorem hunksOf_empty (fuel : Nat) : hunksOf #[] #[] fuel 0 0 = [] := by
  cases fuel <;> simp [hunksOf]

end Changes

end PlanReuse.Script
