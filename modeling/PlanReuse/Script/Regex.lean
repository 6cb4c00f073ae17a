import PlanReuse.Script.Pattern

/-!
# Regular expressions

What expressions match. A match is in the making at a place; an expression leads from a place to others, of
which those that are preferred come first. Of the places at which a match ends, either the furthest is
taken or the first.
-/

namespace PlanReuse.Script

inductive Regex
  | empty
  | char (c : Char)
  | any
  | set (negated : Bool) (ranges : List Range)
  | group (number : Nat) (r : Regex)
  | andThen (r s : Regex)
  | or (r s : Regex)
  /-- At least and at most some times, as often or as seldom as possible. -/
  | repeated (r : Regex) (least : Nat) (most : Option Nat) (lazily : Bool)
  /-- Only the first of the places that an expression leads to. -/
  | once (r : Regex)
  /-- Whether an expression matches here, before or behind the place, or does not. -/
  | look (isBehind negated : Bool) (r : Regex)
  /-- From here on a match counts. -/
  | keep
  /-- The letters of an expression in both cases, or not. -/
  | cased (fold : Bool) (r : Regex)
  | start
  | finish
  | lineStart
  | lineFinish
  | textStart
  | textFinish
  /-- The text that a group has matched. -/
  | again (number : Nat)
  /-- A boundary of a word, or none. -/
  | edge (here : Bool)
  | wordStart
  | wordEnd

namespace Regex

/-- An expression in which the starts and ends of lines count as those of texts, and that passes over the end
of a line only where it asks for it. -/
def byLines : Regex → Regex
  | any => set true [.between '\n' '\n']
  | set true ranges => set true (.between '\n' '\n' :: ranges)
  | start => lineStart
  | finish => lineFinish
  | group n r => group n r.byLines
  | andThen r s => andThen r.byLines s.byLines
  | or r s => or r.byLines s.byLines
  | repeated r least most lazily => repeated r.byLines least most lazily
  | once r => once r.byLines
  | look isBehind negated r => look isBehind negated r.byLines
  | cased fold r => cased fold r.byLines
  | r => r

/-- Whether an expression asks for what a group has matched. -/
def remembers : Regex → Bool
  | again _ => true
  | group _ r | repeated r _ _ _ | once r | look _ _ r | cased _ r => r.remembers
  | andThen r s | or r s => r.remembers || s.remembers
  | _ => false

/-- How many groups an expression has. -/
def groupCount : Regex → Nat
  | group n r => max n r.groupCount
  | repeated r _ _ _ | once r | look _ _ r | cased _ r => r.groupCount
  | andThen r s | or r s => max r.groupCount s.groupCount
  | _ => 0

/-! ### Places -/

/-- A match in the making: the characters before the place, the latest first, those behind it, what the
groups have matched, and from where on the match counts if that is not its start. -/
structure Place where
  before : List Char
  after : List Char
  groups : List (Nat × List Char)
  kept : Option (List Char)

def isWordChar (c : Char) : Bool := c.isAlphanum || c == '_'

namespace Place

def isEdge (p : Place) : Bool := p.before.head?.any isWordChar != p.after.head?.any isWordChar

/-- Passes over a character. -/
def pass (p : Place) (fits : Char → Bool) : List Place :=
  match p.after with
  | c :: r => if fits c then [{ p with before := c :: p.before, after := r }] else []
  | [] => []

/-- The places behind up to some characters, the furthest first. -/
def passMany (fits : Char → Bool) : List Char → List Char → Option Nat → Place → List Place → List Place
  | before, c :: r, most, p, acc =>
    let acc := { p with before, after := c :: r } :: acc
    if fits c && most != some 0 then passMany fits (c :: before) r (most.map (· - 1)) p acc else acc
  | before, [], _, p, acc => { p with before, after := [] } :: acc

/-- The place again if something holds. -/
def only (p : Place) (holds : Bool) : List Place := if holds then [p] else []

end Place

/-- The first ones of places where the same text is left, which is not more than there is at one of them. -/
def distinct (p : Place) (ps : List Place) : List Place :=
  match ps with
  | [] | [_] => ps
  | _ =>
    let size := p.after.length
    let (_, kept) := ps.foldl (fun ((seen : Array Bool), kept) p =>
      let n := p.after.length
      if seen.getD n true then (seen, kept) else (seen.setIfInBounds n true, p :: kept))
      (Array.replicate (size + 1) false, [])
    kept.reverse

/-- The places that a step leads to when it is taken any number of times, but not twice to the same text
left unless `exact` says so. -/
def roundsFrom (one : Place → List Place) (exact lazily : Bool) : Nat → Option Nat → Array Bool → Place →
    List Place × Array Bool
  | 0, _, seen, p => ([p], seen)
  | fuel + 1, most, seen, p =>
    if most = some 0 then ([p], seen)
    else
      let (more, seen) := (one p).foldl (fun (out, seen) q =>
        let n := q.after.length
        if n = p.after.length || (!exact && most.isNone && seen.getD n false) then (out, seen)
        else
          let (next, seen) := roundsFrom one exact lazily fuel (most.map (· - 1)) (seen.setIfInBounds n true) q
          (out ++ next, seen)) (([] : List Place), seen)
      (if lazily then p :: more else more ++ [p], seen)

/-- The places that a step leads to when it is taken a number of times. -/
def roundsOf (one : Place → List Place) (exact : Bool) (p : Place) : Nat → List Place → List Place
  | 0, ps => ps
  | n + 1, ps =>
    let next := ps.flatMap one
    roundsOf one exact p n (if exact then next else distinct p next)

/-! ### Matching -/

/-- The characters that an expression matches if it always matches one. -/
def single? (fold : Bool) : Regex → Option (Char → Bool)
  | char c => some fun d => c == d || (fold && c.toLower == d.toLower)
  | any => some fun _ => true
  | set negated ranges => some fun d =>
      (ranges.any (Range.holds d) ||
        (fold && (ranges.any (Range.holds d.toLower) || ranges.any (Range.holds d.toUpper)))) != negated
  | _ => none

/-- All places that an expression leads to, the preferred ones first. -/
def step (exact : Bool) : Bool → Regex → Place → List Place
  | _, .empty, p => [p]
  | fold, .char c, p => p.pass fun d => c == d || (fold && c.toLower == d.toLower)
  | _, .any, p => p.pass fun _ => true
  | fold, .set negated ranges, p => p.pass (((single? fold (.set negated ranges))).getD fun _ => false)
  | fold, .group n r, p =>
    (step exact fold r p).map fun q =>
      { q with groups := (n, (q.before.take (q.before.length - p.before.length)).reverse) :: q.groups }
  | fold, .andThen r s, p =>
    let ps := (step exact fold r p).flatMap (step exact fold s)
    if exact then ps else distinct p ps
  | fold, .or r s, p =>
    let ps := step exact fold r p ++ step exact fold s p
    if exact then ps else distinct p ps
  | fold, .repeated r least most lazily, p =>
    match single? fold r with
    | some fits =>
      let all := (Place.passMany fits p.before p.after most p []).filter fun q =>
        q.after.length + least ≤ p.after.length
      if lazily then all.reverse else all
    | none =>
      let size := p.after.length
      let ps := (roundsOf (step exact fold r) exact p least [p]).flatMap fun q =>
        (roundsFrom (step exact fold r) exact lazily (size + 1) (most.map (· - least))
          (Array.replicate (size + 1) false) q).1
      if exact then ps else distinct p ps
  | fold, .once r, p => (step exact fold r p).take 1
  | fold, .look isBehind negated r, p =>
    let found : List Place :=
      if isBehind then
        (List.range (p.before.length + 1)).flatMap fun n =>
          (step exact fold r
            { p with before := p.before.drop n, after := (p.before.take n).reverse ++ p.after }).filter fun q =>
              q.after.length = p.after.length
      else step exact fold r p
    if negated then p.only found.isEmpty
    else found.head?.toList.map fun q => { p with groups := q.groups }
  | _, .keep, p => [{ p with kept := some p.before }]
  | _, .cased fold r, p => step exact fold r p
  | _, .start, p | _, .textStart, p => p.only p.before.isEmpty
  | _, .finish, p | _, .textFinish, p => p.only p.after.isEmpty
  | _, .lineStart, p => p.only (p.before.isEmpty || p.before.head? == some '\n')
  | _, .lineFinish, p => p.only (p.after.isEmpty || p.after.head? == some '\n')
  | fold, .again n, p =>
    match p.groups.lookup n with
    | none => []
    | some text =>
      let next := p.after.take text.length
      let same := next == text || (fold && next.map Char.toLower == text.map Char.toLower)
      if same then [{ p with before := next.reverse ++ p.before, after := p.after.drop text.length }] else []
  | _, .edge here, p => p.only (p.isEdge == here)
  | _, .wordStart, p => p.only (p.isEdge && p.after.head?.any isWordChar)
  | _, .wordEnd, p => p.only (p.isEdge && p.before.head?.any isWordChar)

/-- All places where a match that starts at a place may end. -/
def ends (fold : Bool) (r : Regex) (before after : List Char) : List Place :=
  step r.remembers fold r ⟨before, after, [], none⟩

/-- The longest match at a place. -/
def matchAt? (fold : Bool) (r : Regex) (before after : List Char) : Option Place :=
  (r.ends fold before after).foldl (fun best q =>
    match best with
    | some b => if q.after.length < b.after.length then some q else some b
    | none => some q) none

/-- The match at a place that is preferred. -/
def firstAt? (fold : Bool) (r : Regex) (before after : List Char) : Option Place :=
  (r.ends fold before after).head?

/-- Whether an expression can only match where nothing is before. -/
def isAnchored : Regex → Bool
  | .start | .textStart => true
  | .andThen r _ | .group _ r => r.isAnchored
  | .or r s => r.isAnchored && s.isAnchored
  | _ => false

/-- The first match at or behind a place: the text before it, in reverse, and where it ends. -/
def findFrom? (fold : Bool) (r : Regex) (anchored : Bool) (before : List Char) :
    List Char → Option (List Char × Place)
  | [] => (matchAt? fold r before []).map fun q => (before, q)
  | c :: s =>
    match matchAt? fold r before (c :: s) with
    | some q => some (before, q)
    | none => if anchored then none else findFrom? fold r anchored (c :: before) s

def find? (fold : Bool) (r : Regex) (before after : List Char) : Option (List Char × Place) :=
  findFrom? fold r r.isAnchored before after

/-- Whether an expression matches somewhere in a text. -/
def isIn (fold : Bool) (r : Regex) (s : List Char) : Bool := (find? fold r [] s).isSome

/-- Whether an expression matches all of a text. -/
def isAll (fold : Bool) (r : Regex) (s : List Char) : Bool := (r.ends fold [] s).any fun q => q.after.isEmpty

theorem isAll_empty (fold : Bool) : isAll fold .empty [] = true := by
  simp [isAll, ends, step]

end Regex

end PlanReuse.Script
