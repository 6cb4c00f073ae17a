import PlanReuse.Device

/-!
# Placement of fragments

A query runs in fragments. A placement says on which kind of device each one runs; the fragment knows
which device of that kind is meant.
-/

namespace PlanReuse

structure Fragment where
  id : Nat
  tuples : Nat
  cpu : DeviceId
  gpu : DeviceId

namespace Fragment

/-- A fragment on the processor or the first graphics card. -/
def new (id tuples : Nat) : Fragment := ⟨id, tuples, DeviceId.cpu, DeviceId.gpu 0⟩

def device (f : Fragment) : DeviceKind → DeviceId
  | .cpu => f.cpu
  | .gpu => f.gpu

end Fragment

structure Assignment where
  kind : DeviceKind
  device : DeviceId
deriving DecidableEq

inductive Placement
  /-- Every fragment on one kind of device. -/
  | all (kind : DeviceKind)
  /-- Odd fragments on a graphics card, even ones on the processor. -/
  | alternating
deriving DecidableEq

namespace Placement

def text : Placement → String
  | all kind => "FragmentIdAssignment(" ++ kind.name ++ ")"
  | alternating => "RoundRobin"

/-- The kind of device for the fragment at a place. -/
def kindAt : Placement → Nat → DeviceKind
  | all kind, _ => kind
  | alternating, place => if place % 2 = 1 then .gpu else .cpu

def assign (p : Placement) (f : Fragment) (place : Nat) : Assignment :=
  ⟨p.kindAt place, f.device (p.kindAt place)⟩

/-- The assignments of fragments that stand at places `place`, `place + 1` and so on. -/
def assignFrom (p : Placement) : Nat → List Fragment → List Assignment
  | _, [] => []
  | place, f :: fs => p.assign f place :: assignFrom p (place + 1) fs

def assignAll (p : Placement) (fs : List Fragment) : List Assignment := p.assignFrom 0 fs

end Placement

end PlanReuse
