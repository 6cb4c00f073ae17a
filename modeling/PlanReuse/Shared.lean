/-!
# Shared things

Several holders may share one thing. Two things of equal content are still two; a serial number, given
once to each, tells them apart.
-/

namespace PlanReuse

structure Shared (α : Type) where
  serial : Nat
  value : α

/-- Whether two holders hold one thing. -/
def Shared.isSame {α : Type} (a b : Shared α) : Bool := a.serial == b.serial

end PlanReuse
