import PlanReuse.Script.Run

/-!
# Sessions

A session starts one program on a disk and gives the disk that it leaves behind, and how it has ended.
-/

namespace PlanReuse.Script

open Shell

/-- The programs of the system. -/
def programs : List String := shells ++ carriers ++ ["kill", "test", "[", "which"] ++ Tool.names

/-- The disk of a system before anything is put on it. -/
def systemDisk : Disk := .system programs

namespace Session

/-- How deeply commands may be nested, and how often they may be repeated. -/
def fuel : Nat := 1000000

/-- The variables that a session begins with. -/
def bindings : List (String × Variable) :=
  [("HOME", "/root"), ("PATH", standardPath)].map
    fun (n, x) => (n, ⟨some x, true, false⟩)

/-- The process that starts a program in a folder. Nothing is read from its input, and what is written to
its output is lost. -/
def outer (d : Disk) (folder : Path) : Shell where
  number := 1
  ancestors := []
  shellNumber := 1
  folder
  route := folder.text
  name := "sh"
  parameters := []
  bindings
  given := none
  functions := []
  aliases := []
  descriptors := [(0, 0), (1, 0), (2, 0)]
  options := []
  traps := []
  status := 0
  flow := .go
  loops := 0
  hidden := []
  lastJob := none
  line := 1
  outputStatus := 0
  mask := 0o022
  trapped := none
  lettersTaken := 0
  world := ⟨d, #[⟨.nowhere, 0, false⟩], #[], 4000, []⟩
  jobs := []

/-- Runs a program in a folder. A script is given to the interpreter that its first line names. -/
def run (d : Disk) (folder program : String) (arguments : List String) : Except DiskFault (Ending × Disk) := do
  let (home, entry) ← d.find [] folder
  if entry ≠ .folder then throw .notDirectory
  let (_, entry) ← d.find home program
  let sh := outer d home
  let start (tool name : String) (arguments : List String) : Ending × Disk :=
    let (e, sh) := runToolNamed fuel tool name arguments sh
    (e, sh.world.disk)
  match entry with
  | .program tool => return start tool program arguments
  | .file n =>
    let c := (d.content? n).getD (.ofText "" 0)
    if c.mode &&& 0o111 = 0 then throw .denied
    match interpreter? c.text with
    | none => throw .notProgram
    | some (interpreter, options) =>
      match ← d.find home interpreter with
      | (_, .program tool) => return start tool interpreter (options ++ program :: arguments)
      | _ => throw .denied
  | _ => throw .denied

end Session

end PlanReuse.Script
