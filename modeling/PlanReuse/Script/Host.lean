import PlanReuse.Benchmark.Suite
import PlanReuse.Script.Session

/-!
# A disk as a host

A suite can be installed on a disk, where its scripts are run by the interpreters of the system.
-/

namespace PlanReuse.Script

open Benchmark (Host Suite)

/-- What a refusal of the disk means for a file. -/
def faultOf : DiskFault → FileFault
  | .notFound => .notFound
  | .exists => .exists
  | .isDirectory => .isDirectory
  | .notDirectory => .notDirectory
  | .denied => .denied
  | .notEmpty => numbered .notEmpty 39
  | .loop => numbered .loop 40
  | .invalid => numbered .invalid 22
  | .full => numbered .full 28
  | .notProgram => numbered .notProgram 8
where
  numbered (fault : DiskFault) (number : Nat) : FileFault :=
    .other (fault.message ++ " (os error " ++ toString number ++ ")")

/-- What reading a file of the disk gives. -/
def readBytes (d : Disk) (path : String) : FileRead :=
  ((d.readFile [] path).map fun c => ⟨(toBytes c.text).toArray⟩).mapError faultOf

/-- Runs a program from the top of the disk. -/
def runProgramIn (d : Disk) (folder program : String) (arguments : List String) :
    Except FileFault (Benchmark.Ending × Disk) :=
  ((Session.run d folder program arguments).map fun (e, d) => (⟨e.isSuccess, e.message⟩, d)).mapError
    faultOf

def host : Host Disk where
  createFolders d path := (d.createFolders (Path.names path)).mapError faultOf
  run := runProgramIn
  readFile := readBytes

/-- The text of a script with some commands. -/
def scriptText (body : String) : String := "#!/bin/sh\n" ++ body ++ "\n"

/-- The disk of a system with a suite. Each script has some commands and can be run or not; `blocked` puts
a file where the reports are to lie. -/
def installed (s : Suite) (scripts : List (Workload × String × Bool)) (blocked : Bool) : Disk :=
  let place := Path.names
  let d := (systemDisk.createFolders (place s.root ++ ["scripts"])).toOption.getD systemDisk
  let d := scripts.foldl (fun d (w, body, executable) =>
    d.createFile (place (s.scriptPath w))
      (.ofText (encode (scriptText body)) (if executable then 0o755 else 0o644))) d
  if blocked then d.createFile (place s.results) (.ofText "" 0o644) else d

/-- The names of what lies in the folder of the reports. -/
def reports (s : Suite) (d : Disk) : List String :=
  match d.find [] s.results with
  | .ok (p, .folder) => (d.names p).map decode
  | _ => []

end PlanReuse.Script
