import PlanReuse.Script.Edit.Syntax

/-!
# Replacing matches

What is put in place of a match is made of pieces. Matches are counted from the left; an empty one right
behind another match does not count.
-/

namespace PlanReuse.Script.Edit

def LetterCase.apply : LetterCase → Char → Char
  | large, c => c.toUpper
  | small, c => c.toLower

/-- A text in which the first letter and all others are changed. -/
def changed (all first : Option LetterCase) (s : List Char) : List Char :=
  let of (l : Option LetterCase) (c : Char) : Char := (l.map fun l => l.apply c).getD c
  match s with
  | [] => []
  | c :: r => of (first.or all) c :: r.map (of all)

theorem changed_length (all first : Option LetterCase) (s : List Char) : (changed all first s).length = s.length := by
  cases s <;> simp [changed]

/-- What pieces put in place of a match. A change of the first letter that finds no letter in an empty group
is left to the next piece. -/
def fill (matched : List Char) (groups : List (Nat × List Char)) : Option LetterCase → List Piece → List Char
  | _, [] => []
  | left, p :: ps =>
    let first := p.first.or left
    let front := changed p.all first p.text
    let first' := if p.text.isEmpty then first else none
    match p.group with
    | none => front ++ fill matched groups none ps
    | some n =>
      let s := if n = 0 then matched else (groups.lookup n).getD []
      if s.isEmpty then front ++ fill matched groups (if p.first.isSome then first' else none) ps
      else front ++ changed p.all first' s ++ fill matched groups none ps

/-- Replaces matches from the one with a number on, all of them or one; none if there is no such match. The
text so far is in reverse; `touches` says whether a match ends here, and `done` whether one has been
replaced. -/
def replaceFrom (t : Target) (pieces : List Piece) (all : Bool) :
    Nat → Nat → List Char → List Char → List Char → Bool → Bool → Option (List Char)
  | 0, _, _, _, _, _, _ => none
  | fuel + 1, which, out, before, after, touches, done =>
    let finish (out left : List Char) (done : Bool) : Option (List Char) :=
      if done then some (out.reverse ++ left) else none
    match t.regex.find? t.fold before after with
    | none => finish out after done
    | some (start, place) =>
      let skipped := start.length - before.length
      let count := place.before.length - start.length
      if count = 0 ∧ touches ∧ skipped = 0 then
        match after with
        | [] => finish out [] done
        | c :: r => replaceFrom t pieces all fuel which (c :: out) (c :: before) r false done
      else
        let out := start.take skipped ++ out
        let matched := place.before.take count
        let out :=
          if which ≤ 1 then (fill matched.reverse place.groups none pieces).reverse ++ out else matched ++ out
        let done := done || which ≤ 1
        if which ≤ 1 ∧ !all then finish out place.after true
        else if count = 0 then
          match place.after with
          | [] => finish out [] done
          | c :: r => replaceFrom t pieces all fuel (which - 1) (c :: out) (c :: place.before) r false done
        else replaceFrom t pieces all fuel (which - 1) out place.before place.after true done

/-- A text in which matches are replaced; none if there is nothing to replace. -/
def replaceIn (t : Target) (pieces : List Piece) (which : Nat) (all : Bool) (s : List Char) : Option (List Char) :=
  replaceFrom t pieces all (2 * s.length + 4) which [] [] s false false

end PlanReuse.Script.Edit
