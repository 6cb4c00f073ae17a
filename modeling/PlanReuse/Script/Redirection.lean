import PlanReuse.Script.Expansion

/-!
# Redirections

Opening files for the streams of a process.
-/

namespace PlanReuse.Script

/-- A redirection whose target is known. -/
inductive Opening
  | file (stream : Nat) (way : Way) (target : String)
  | text (stream : Nat) (text : String)

section Targets

variable (output : Shell → Command → String × Shell)

/-- Works out the targets of redirections. -/
def expandTargets : List Redirection → Expanding (List Opening)
  | [] => return []
  | r :: rs => do
    let o ← match r with
      | .file stream way target => do
        let text ← expandText output target
        let isNumber := text = "-" ∨ (text.length = 1 ∧ text.toList.all Char.isDigit)
        if way = .copy ∧ !isNumber ∧ (← get).isGoing then
          modify fun sh => sh.fail "Syntax error: Bad fd number"
        pure (Opening.file stream way text)
      | .document stream number => do
        let w := ((← get).world.documents[number]?).getD []
        pure (Opening.text stream (textOf (← expandWord output false false w)))
    if !(← get).isGoing then return []
    return o :: (← expandTargets rs)

end Targets

namespace Shell

/-- Opens a stream at the start of a file. -/
def openNumber (sh : Shell) (number : Nat) (append : Bool) : Nat × Shell :=
  sh.openStream ⟨.file number, 0, append⟩

/-- The file that a device stands for, if it stands for an open stream that leads to one. -/
def fileOfDevice? (sh : Shell) (name : String) : Option Nat := do
  let i ← sh.stream? (← name.toNat?)
  match (← sh.world.streams[i]?).endpoint with
  | .file n => some n
  | _ => none

/-- The stream that a device stands for. -/
def openDevice (sh : Shell) (name : String) : Except String (Nat × Shell) :=
  match name with
  | "null" => .ok (sh.openStream ⟨.nowhere, 0, false⟩)
  | "full" => .ok (sh.openStream ⟨.full, 0, false⟩)
  | "tty" => .error "No such device or address"
  | _ =>
    match name.toNat? with
    | some n =>
      match sh.stream? n with
      | some i => .ok (i, sh)
      | none => .error "No such device or address"
    | none => .ok (sh.openStream ⟨.zeros, 0, false⟩)

/-- What is said when a file cannot be opened. -/
def openingFault (create : Bool) (fault : DiskFault) : String :=
  match fault with
  | .notFound | .notDirectory => if create then "Directory nonexistent" else "No such file"
  | _ => fault.message

/-- Opens a file to read it. -/
def openToRead (sh : Shell) (target : String) : Except String (Nat × Shell) :=
  match sh.world.disk.find sh.folder target with
  | .error fault => .error (openingFault false fault)
  | .ok (_, .file n) => .ok (sh.openNumber n false)
  | .ok (_, .device name) =>
    match sh.fileOfDevice? name with
    | some n => .ok (sh.openNumber n false)
    | none => sh.openDevice name
  | .ok (_, .folder) => .ok (sh.openStream ⟨.folder, 0, false⟩)
  | .ok _ => .ok (sh.openStream ⟨.nowhere, 0, false⟩)

/-- Opens a file by its number to write to it; some ways empty it. -/
def openNumberToWrite (sh : Shell) (way : Way) (number : Nat) : Nat × Shell :=
  let keeps := way = .append ∨ way = .both
  let d := sh.world.disk
  let d := match d.content? number with
    | some c => if keeps then d else d.setContent number (c.resize 0)
    | none => d
  (sh.setDisk d).openNumber number (way == .append)

/-- Opens a file to write to it, and makes it if it is missing. -/
def openToWrite (sh : Shell) (way : Way) (target : String) : Except String (Nat × Shell) :=
  match sh.world.disk.find sh.folder target with
  | .ok (_, .device name) =>
    match sh.fileOfDevice? name with
    | some n => .ok (sh.openNumberToWrite way n)
    | none => sh.openDevice name
  | found =>
    let isFile : Bool := match found with
      | .ok (_, .file _) => true
      | _ => false
    if isFile && way == .write && sh.has 'C' then .error DiskFault.exists.message
    else
      match sh.world.disk.openFile sh.folder target (0o666 &&& (0o777 - sh.mask)) with
      | .error fault => .error (openingFault true fault)
      | .ok (n, d) => .ok ((sh.setDisk d).openNumberToWrite way n)

/-- Carries out a redirection, or says why it cannot be. -/
def openOne (sh : Shell) : Opening → Except String Shell
  | .text stream text =>
    let (i, sh) := sh.openStream ⟨.source text.toList, 0, false⟩
    .ok (sh.setDescriptor stream i)
  | .file stream .copy target =>
    if target = "-" then .ok (sh.close stream)
    else
      match target.toNat?.bind sh.stream? with
      | some i => .ok (sh.setDescriptor stream i)
      | none => .error (target ++ ": Bad file descriptor")
  | .file stream .read target =>
    match sh.openToRead target with
    | .ok (i, sh) => .ok (sh.setDescriptor stream i)
    | .error text => .error ("cannot open " ++ target ++ ": " ++ text)
  | .file stream way target =>
    match sh.openToWrite way target with
    | .ok (i, sh) => .ok (sh.setDescriptor stream i)
    | .error text => .error ("cannot create " ++ target ++ ": " ++ text)

/-- Carries out redirections in turn; false after the first that fails, with a complaint. -/
def openAll (sh : Shell) : List Opening → Bool × Shell
  | [] => (true, sh)
  | o :: os =>
    match sh.openOne o with
    | .ok sh => sh.openAll os
    | .error text => (false, (sh.complain text).withStatus 2)

theorem openAll_nil (sh : Shell) : sh.openAll [] = (true, sh) := rfl

end Shell

end PlanReuse.Script
