import PlanReuse.Failure

/-!
# Contents of files

Reading a file either fails or gives bytes; a text file must hold UTF-8.
-/

namespace PlanReuse

/-- What reading a file gives. -/
abbrev FileRead := Except FileFault ByteArray

/-- The text of a file. -/
def FileRead.text (r : FileRead) : Except FileFault String :=
  match r with
  | .error fault => .error fault
  | .ok bytes =>
    match String.fromUTF8? bytes with
    | some s => .ok s
    | none => .error .invalidUtf8

end PlanReuse
