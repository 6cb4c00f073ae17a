/-!
# Cutting a text into pieces
-/

namespace PlanReuse

/-- Cuts a text at every occurrence of a character. -/
def cutAt (c : Char) : List Char → List (List Char)
  | [] => [[]]
  | d :: r =>
    if d = c then [] :: cutAt c r
    else
      match cutAt c r with
      | p :: ps => (d :: p) :: ps
      | [] => [[d]]

end PlanReuse
