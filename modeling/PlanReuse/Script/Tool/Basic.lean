import PlanReuse.Script.Disk
import PlanReuse.Script.Signal

/-!
# Tools

A tool is a program of the system: it is given arguments, an input and a disk, writes texts and ends with
a status.
-/

namespace PlanReuse.Script

/-- A tool at work. -/
structure Work where
  /-- The name by which the tool has been called. -/
  name : String
  /-- What is left to read. -/
  input : List Char
  /-- The files of the disk that the input and the output lead to. -/
  inputFile : Option Nat
  outputFile : Option Nat
  /-- Why the input cannot be read. -/
  inputFault : Option DiskFault
  output : String
  /-- The pieces about errors, the last one first, each with how much of the output stands before it. -/
  errors : List (Nat × String)
  /-- Whether the errors lead where the output leads. -/
  together : Bool
  status : Nat
  disk : Disk
  folder : Path
  /-- The permissions that new files do not get. -/
  mask : Nat
  environment : List (String × String)

namespace Work

/-- Writes a piece about an error behind what has been written. -/
def note (w : Work) (text : String) : Work := { w with errors := (w.output.length, text) :: w.errors }

/-- Goes on with a work whose output is taken away; what it has written about errors stays. -/
def aside (w : Work) (act : Work → Work) : String × Work :=
  let v := act { w with output := "", errors := [], together := false }
  (v.output, { v with
    output := w.output
    errors := v.errors.map (fun e => (w.output.length, e.2)) ++ w.errors
    together := w.together })

/-- What has been written about errors. -/
def errorText (w : Work) : String := String.join (w.errors.reverse.map Prod.snd)

/-- Whether the input is a file of the disk. -/
def inputIsFile (w : Work) : Bool := w.inputFile.isSome

/-- Whether an operand is the file that the output leads to. -/
def isOutput (w : Work) (name : String) : Bool :=
  match w.outputFile with
  | none => false
  | some n =>
    if name = "-" then w.inputFile = some n
    else
      match w.disk.find w.folder name with
      | .ok (_, .file m) => m = n
      | _ => false

end Work

abbrev Tool := StateM Work

/-- How the start of another program has gone. -/
inductive Launch
  | missing
  | denied
  | ended (e : Ending)

/-- Runs a program with arguments; what it writes is written by the tool. -/
abbrev Launcher := List String → Tool Launch

namespace Tool

def put (text : String) : Tool Unit := modify fun w => { w with output := w.output ++ text }

def putLine (text : String) : Tool Unit := put (text ++ "\n")

def setStatus (n : Nat) : Tool Unit := modify fun w => { w with status := n }

/-- Writes about an error. -/
def note (text : String) : Tool Unit := modify fun w => w.note text

/-- Writes a line about an error. -/
def say (text : String) : Tool Unit := modify fun w => w.note (w.name ++ ": " ++ text ++ "\n")

/-- An error after which the tool goes on. -/
def complain (text : String) : Tool Unit := do
  say text
  setStatus 1

def quote (text : String) : String := "'" ++ text ++ "'"

def ofFault (text : String) (fault : DiskFault) : String := text ++ ": " ++ fault.message

/-- Takes all of the input. -/
def takeInput : Tool String := modifyGet fun w => (String.ofList w.input, { w with input := [] })

/-- How much is read of what has no end, and how much at most if a number of bytes is wanted. -/
def endless : Nat := 1048576

def mostRead : Nat := 16777216

/-- The bytes in front of the content of a device. -/
def deviceText (count : Nat) (name : String) : Tool String :=
  match name with
  | "0" => takeInput
  | "zero" | "random" | "urandom" => return "".pushn (Char.ofNat 0) (min count mostRead)
  | _ => return ""

/-- The content of the file that an operand names; a minus is the input. Of what has no end, `count`
bytes are read. -/
def contentOf (count : Nat) (name : String) : Tool (Except DiskFault String) := do
  let w ← get
  if name = "-" then
    match w.inputFault with
    | some fault => return .error fault
    | none => return .ok (← takeInput)
  match w.disk.find w.folder name with
  | .ok (_, .device device) => return .ok (← deviceText count device)
  | _ => return (w.disk.readFile w.folder name).map Content.text

/-- The contents of operands one after the other, or the input if there are none. -/
def eachContent (operands : List String) (act : String → String → Tool Unit) : Tool Unit :=
  (if operands.isEmpty then ["-"] else operands).forM fun name => do
    match ← contentOf endless name with
    | .ok text => act name text
    | .error fault => complain (ofFault name fault)

/-- All contents of operands together. -/
def allContents (operands : List String) : Tool String := do
  let mut all := ""
  for name in if operands.isEmpty then ["-"] else operands do
    match ← contentOf endless name with
    | .ok text => all := all ++ text
    | .error fault => complain (ofFault name fault)
  return all

/-- Changes the disk, or complains. -/
def change (about : String) (act : Work → Except DiskFault Disk) : Tool Bool := do
  let w ← get
  match act w with
  | .ok d =>
    set { w with disk := d }
    return true
  | .error fault =>
    complain (ofFault about fault)
    return false

/-- The permissions that a file gets. -/
def masked (w : Work) (mode : Nat) : Nat := mode &&& (0o7777 - w.mask)

/-- Puts a text into the file of a name, in the place of what it holds or behind that. The devices of the
output and the errors lead there. -/
def putFile (about name text : String) (behind : Bool) : Tool Bool := do
  let w ← get
  match w.disk.find w.folder name with
  | .ok (_, .device "1") =>
    put text
    return true
  | .ok (_, .device "2") =>
    note text
    return true
  | _ =>
    change about fun w =>
      let old := if behind then ((w.disk.readFile w.folder name).toOption.map Content.text).getD "" else ""
      w.disk.writeFile w.folder name (old ++ text) (masked w 0o666)

/-- The last name of a path. -/
def bareName (name : String) : String := String.ofList (name.toList.reverse.takeWhile (· ≠ '/')).reverse

/-- An error in how a tool is called. -/
def misuse (text : String) : Tool Unit := do
  complain text
  let w ← get
  let lead := if ["cmp", "diff"].contains (bareName w.name) then w.name ++ ": " else ""
  note (lead ++ "Try " ++ quote (w.name ++ " --help") ++ " for more information.\n")

/-! ### Options -/

/-- The options that a tool takes: letters alone, letters with a value, letters with a value that may be
missing, and long names for letters. A letter that is no byte cannot be typed: it stands for an option
that has only a long name. -/
structure Grammar where
  plain : String
  valued : String
  optional : String
  long : List (String × Char)

/-- Options with their values, and operands. -/
structure Arguments where
  options : List (Char × String)
  operands : List String

namespace Arguments

def has (a : Arguments) (c : Char) : Bool := a.options.any (·.1 == c)

/-- The last value of an option. -/
def value? (a : Arguments) (c : Char) : Option String := a.options.reverse.lookup c

/-- All values of an option. -/
def values (a : Arguments) (c : Char) : List String :=
  a.options.filterMap fun o => if o.1 = c then some o.2 else none

/-- The last of some options. -/
def lastOf (a : Arguments) (letters : String) : Option Char :=
  (a.options.reverse.find? fun o => letters.contains o.1).map Prod.fst

end Arguments

/-- The options in a word after its minus; the last one may want the next word as its value. -/
def readLetters (g : Grammar) : List Char → Except String (List (Char × String) × Option Char)
  | [] => .ok ([], none)
  | c :: r =>
    if g.valued.contains c then
      if r.isEmpty then .ok ([], some c) else .ok ([(c, String.ofList r)], none)
    else if g.optional.contains c then .ok ([(c, String.ofList r)], none)
    else if g.plain.contains c then
      (readLetters g r).map fun (os, wanted) => ((c, "") :: os, wanted)
    else .error ("invalid option -- " ++ quote c.toString)

/-- A long option, with the value behind its equals sign. The beginning of a name is enough if it is the
beginning of one option only. -/
def readLong (g : Grammar) (text : String) : Except String (List (Char × String) × Option Char) :=
  let name := String.ofList (text.toList.takeWhile (· ≠ '='))
  let value := text.toList.dropWhile (· ≠ '=')
  let found := g.long.filter fun l => l.1.startsWith name
  match (g.long.find? (·.1 == name)).toList ++ found with
  | [] => .error ("unrecognized option " ++ quote ("--" ++ text))
  | l :: _ =>
    if l.1 ≠ name ∧ found.any (·.2 ≠ l.2) then
      .error ("option " ++ quote ("--" ++ name) ++ " is ambiguous; possibilities: " ++
        " ".intercalate (found.map fun f => quote ("--" ++ f.1)))
    else if g.valued.contains l.2 then
      if value.isEmpty then .ok ([], some l.2) else .ok ([(l.2, String.ofList (value.drop 1))], none)
    else if value.isEmpty ∨ g.optional.contains l.2 then .ok ([(l.2, String.ofList (value.drop 1))], none)
    else .error ("option " ++ quote ("--" ++ l.1) ++ " doesn't allow an argument")

/-- Tells options from operands, which may stand in any order unless the first operand ends the options;
after two minuses all are operands. -/
def readArguments (g : Grammar) (mixed : Bool) : List String → Except String Arguments
  | [] => .ok ⟨[], []⟩
  | "--" :: rest => .ok ⟨[], rest⟩
  | s :: rest => do
    match s.toList with
    | '-' :: c :: r =>
      let (os, wanted) ← if c = '-' then readLong g (String.ofList r) else readLetters g (c :: r)
      match wanted with
      | none =>
        let a ← readArguments g mixed rest
        return { a with options := os ++ a.options }
      | some o =>
        match rest with
        | v :: rest =>
          let a ← readArguments g mixed rest
          return { a with options := os ++ (o, v) :: a.options }
        | [] =>
          if c = '-' then
            .error ("option " ++ quote ("--" ++ ((g.long.find? fun l => l.2 == o).map Prod.fst).getD "") ++
              " requires an argument")
          else .error ("option requires an argument -- " ++ quote o.toString)
    | _ =>
      if !mixed then return ⟨[], s :: rest⟩
      let a ← readArguments g mixed rest
      return { a with operands := s :: a.operands }

/-- The collection that a tool belongs to, with its version. -/
def collectionOf (name : String) : String :=
  if ["grep", "egrep", "fgrep"].contains name then "GNU grep) 3.8"
  else if name = "sed" then "GNU sed) 4.9"
  else if ["find", "xargs"].contains name then "GNU findutils) 4.9.0"
  else if ["diff", "cmp", "sdiff", "diff3"].contains name then "GNU diffutils) 3.8"
  else "GNU coreutils) 9.1"

/-- Runs a tool on the options and operands of its arguments; wrong options end it with a status. -/
def withOptions (g : Grammar) (wrong : Nat) (arguments : List String) (act : Arguments → Tool Unit) :
    Tool Unit := do
  let name := (← get).name
  let shown := arguments.takeWhile (· ≠ "--")
  if shown.contains "--help" then put ("Usage: " ++ name ++ " [OPTION]...\n")
  else if shown.contains "--version" then
    put (bareName name ++ " (" ++ collectionOf (bareName name) ++ "\n")
  else
    match readArguments g true arguments with
    | .ok a => act a
    | .error text =>
      misuse text
      setStatus wrong

/-- A tool that cannot do without operands. -/
def wantOperand (a : Arguments) (act : Tool Unit) : Tool Unit :=
  if a.operands.isEmpty then misuse "missing operand" else act

/-- Words in which options are changed; a word that is the value of an option stays. -/
def mapOptions (valued : String) (change : String → List String) : List String → List String
  | [] => []
  | [s] => if s = "--" then [s] else change s
  | s :: v :: rest =>
    let wantsNext := s.startsWith "-" && !s.startsWith "--" &&
      ((s.toList.drop 1).dropWhile fun c => !valued.contains c).length == 1
    if s = "--" then s :: v :: rest
    else if wantsNext then s :: v :: mapOptions valued change rest
    else change s ++ mapOptions valued change (v :: rest)

/-- An option that is one of some words, or a beginning of one of them. -/
def choiceOf (words : List String) (s : String) : Option String :=
  match words.find? (· == s), words.filter fun w => w.startsWith s with
  | some w, _ => some w
  | none, [w] => some w
  | none, _ => none

/-- Complains about an option that is none of some words, of which some mean the same. -/
def misuseAlike (option s : String) (groups : List (List String)) : Tool Unit :=
  let isAmbiguous := 1 < (groups.flatten.filter fun w => w.startsWith s).length
  misuse ((if isAmbiguous then "ambiguous" else "invalid") ++ " argument " ++ quote s ++ " for " ++ quote option ++
    "\nValid arguments are:" ++ String.join (groups.map fun g => "\n  - " ++ ", ".intercalate (g.map quote)))

/-- Complains about an option that is none of some words. -/
def misuseChoice (option s : String) (words : List String) : Tool Unit :=
  misuseAlike option s (words.map fun w => [w])

/-! ### Numbers with units -/

/-- What is said about a text that is no number that can be taken here, and why if it is a number. -/
def countFault (about value : String) (number : Option Int) : String :=
  about ++ ": " ++ quote value ++
    (match number with
      | none => ""
      | some n =>
        if (Nat.pow 2 30 : Int) ≤ n ∨ n < -(Nat.pow 2 30 : Int) then ": Value too large for defined data type"
        else ": Numerical result out of range")

/-- A number in a text, if it lies between bounds. -/
def countWithin (about value : String) (least most : Int) : Except String Int :=
  match scanInteger 10 value.toList with
  | some (n, []) =>
    if least ≤ n ∧ n ≤ most then .ok n
    else .error (countFault about value (if 0 ≤ least ∧ n < 0 then none else some n))
  | _ => .error (countFault about value none)

/-- The number of bytes that a unit stands for; without a prefix it is a power of 1024. -/
def unitSize? (s : String) : Option Nat :=
  let letters := "KMGTPEZY".toList
  match s.toList with
  | [] => some 1
  | c :: r =>
    let c := if c = 'k' ∨ c = 'm' then c.toUpper else c
    match letters.idxOf? c, String.ofList r with
    | some n, "" | some n, "iB" => some (Nat.pow 1024 (n + 1))
    | some n, "B" => some (Nat.pow 1000 (n + 1))
    | _, _ => none

/-- A number with a unit: `b` for 512, or a prefix. A unit alone stands for one of it. -/
def sizeOf? (s : String) : Option Nat :=
  let unit? (rest : List Char) : Option Nat := if rest = ['b'] then some 512 else unitSize? (String.ofList rest)
  match scanDigits 10 0 s.toList with
  | (_, 0, []) => none
  | (_, 0, rest) => unit? rest
  | (n, _, rest) => (unit? rest).map (n * ·)

end Tool

end PlanReuse.Script
