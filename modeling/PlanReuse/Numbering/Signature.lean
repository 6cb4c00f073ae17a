import PlanReuse.Hash.Sip
import PlanReuse.Hash.Stream
import PlanReuse.Numbering.Shape
import PlanReuse.Text.Quoted

/-!
# Signatures of shapes

A signature is a shape with a 64-bit digest at every node. Two shapes may share a digest, so equality
looks at the structure; the digests are compared first, since they tell most shapes apart at once.
-/

namespace PlanReuse

inductive Signature
  | node (kind : OperatorKind) (params : String) (inputs : List Signature) (digest : UInt64)

namespace Signature

def kind : Signature → OperatorKind
  | node k _ _ _ => k

def params : Signature → String
  | node _ p _ _ => p

def inputs : Signature → List Signature
  | node _ _ is _ => is

def digest : Signature → UInt64
  | node _ _ _ d => d

/-! ### Making -/

/-- What the digest of a node is taken of: its kind, its parameters and the digests of its inputs. -/
def bytes (kind : OperatorKind) (params : String) (digests : List UInt64) : List UInt8 :=
  Hash.word kind.code ++ Hash.terminated params ++ Hash.word digests.length ++
    digests.flatMap fun d => Hash.word d.toNat

/-- The signature of a node with some inputs, under any hash function. -/
def make (hash : List UInt8 → UInt64) (kind : OperatorKind) (params : String)
    (inputs : List Signature) : Signature :=
  node kind params inputs (hash (bytes kind params (inputs.map digest)))

mutual

/-- The signature of a shape, made from the inputs up. -/
def ofShape (hash : List UInt8 → UInt64) : Shape → Signature
  | .node k p is => make hash k p (ofShapes hash is)

def ofShapes (hash : List UInt8 → UInt64) : List Shape → List Signature
  | [] => []
  | s :: ss => ofShape hash s :: ofShapes hash ss

end

/-! ### Equality -/

mutual

/-- Compares digests, then kinds, parameters and inputs, in this order. The answer comes with the proof
that a signature agrees with itself, and so a part that two signatures share is passed over. -/
def agreement (s t : Signature) : { b : Bool // s = t → b = true } :=
  match s, t with
  | node k p is d, node k' p' is' d' =>
    ⟨d == d' && decide (k = k') && p == p' && (agreements is is').1, fun e => by
      injection e with hk hp hi hd
      simp [hk, hp, hd, (agreements is is').2 hi]⟩

def agreements : (ss ts : List Signature) → { b : Bool // ss = ts → b = true }
  | [], [] => ⟨true, fun _ => rfl⟩
  | [], _ :: _ => ⟨false, by simp⟩
  | _ :: _, [] => ⟨false, by simp⟩
  | s :: ss, t :: ts =>
    ⟨withPtrEq s t (fun _ => (agreement s t).1) (agreement s t).2 && (agreements ss ts).1, fun e => by
      injection e with h hs
      simp [withPtrEq, (agreement s t).2 h, (agreements ss ts).2 hs]⟩

end

/-- Equality as it is tested. -/
def agree (s t : Signature) : Bool :=
  withPtrEq s t (fun _ => (agreement s t).1) (agreement s t).2

theorem agree_self (s : Signature) : s.agree s = true := (agreement s s).2 rfl

/-! ### Text -/

/-- The kind, the parameters, and the digests of the inputs. -/
def text (s : Signature) : String :=
  let mark (i : Signature) : String := "#" ++ String.ofList (Text.hexPadded 16 i.digest.toNat)
  s.kind.name ++ "\x7b" ++ s.params ++ "\x7d" ++
    if s.inputs.isEmpty then "" else "(" ++ String.intercalate ", " (s.inputs.map mark) ++ ")"

end Signature

end PlanReuse
