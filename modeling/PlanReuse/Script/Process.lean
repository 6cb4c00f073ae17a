import PlanReuse.Script.Builtin
import PlanReuse.Script.Tool.Table

/-!
# Processes

What a process is given and what it leaves: its parts, the variables of one command, the programs that its
names lead to, and the new shells and jobs that it starts.
-/

namespace PlanReuse.Script

/-! ### Processes and their parts -/

namespace Shell

/-- A part of a process, with a state of its own from here on. -/
def part (sh : Shell) : Shell :=
  { sh with
    number := sh.world.nextProcess
    ancestors := sh.number :: sh.ancestors
    traps := sh.traps.filter (·.2 == "")
    jobs := []
    world.nextProcess := sh.world.nextProcess + 1 }

/-- Says how a process that was waited for has ended, unless it has ended by itself. -/
def noteEnding (sh : Shell) (e : Ending) : Shell :=
  match e.notice with
  | some text => (sh.write 2 (text ++ "\n")).2
  | none => sh

/-- The process after a part of it, or another process, has ended. -/
def rejoin (sh child : Shell) (e : Ending) : Shell :=
  { sh with world := child.world, status := e.status }.noteEnding e

/-- A process with a text as its input. -/
def withInput (sh : Shell) (text : String) : Shell :=
  let (i, sh) := sh.openStream ⟨.source text.toList, 0, false⟩
  sh.setDescriptor 0 i

/-- A process in which what is written to a descriptor is kept, and where. -/
def withKept (sh : Shell) (descriptor : Nat) : Nat × Shell :=
  let (i, sh) := sh.openStream ⟨.sink "", 0, false⟩
  (i, sh.setDescriptor descriptor i)

/-- What has been written to a stream that keeps it. -/
def kept (sh : Shell) (stream : Nat) : String :=
  match (sh.world.streams[stream]?).map Stream.endpoint with
  | some (.sink text) => text
  | _ => ""

/-- A process with nothing to read. -/
def withoutInput (sh : Shell) : Shell :=
  let (i, sh) := sh.openStream ⟨.nowhere, 0, false⟩
  sh.setDescriptor 0 i

/-- Ends a process after an error if it asks for that. -/
def checkStatus (sh : Shell) (tested : Bool) : Shell :=
  if !tested && sh.has 'e' && sh.status ≠ 0 && sh.isGoing then { sh with flow := .exit } else sh

/-- What is left of a loop's round, and whether the loop is left. -/
def endRound (sh : Shell) : Bool × Shell :=
  match sh.flow with
  | .go => (false, sh)
  | .leaveLoops count again =>
    if count ≤ 1 then (!again, { sh with flow := .go })
    else (true, { sh with flow := .leaveLoops (count - 1) again })
  | _ => (true, sh)

/-! ### Variables for one command -/

/-- Variables, and the options under a minus, as they were before. -/
def restore (sh : Shell) (olds : List (String × Option Variable)) : Shell :=
  olds.foldl (fun sh (name, old) =>
    match old with
    | some v =>
      if name = "-" then { sh with options := (v.value.getD "").toList } else sh.setVariable name v
    | none => sh.dropVariable name) sh

/-- A process with new parameters and no loops, whose functions may hide variables. -/
def enterFunction (sh : Shell) (arguments : List String) : Shell :=
  { sh with parameters := arguments, loops := 0, hidden := [] :: sh.hidden }

/-- The process after a function that it has entered. -/
def leaveFunction (sh before : Shell) : Shell :=
  let sh := sh.restore (sh.hidden.headD [])
  { sh with
    parameters := before.parameters
    loops := before.loops
    hidden := before.hidden
    flow := if sh.flow = .leaveFunction then .go else sh.flow }

/-! ### Tools -/

/-- Tools that write each line at once. -/
def promptTools : List String :=
  ["b2sum", "cksum", "du", "md5sum", "sha1sum", "sha224sum", "sha256sum", "sha384sum", "sha512sum", "sum", "wc"]

/-- Tools that write about errors before all of their output. -/
def lateTools : List String := ["cmp", "sed"]

/-- What a tool says when its output takes nothing, without its name, and its status then. -/
def writeFault (tool : String) (isClosed : Bool) : List String × Nat :=
  let reason := if isClosed then "Bad file descriptor" else "No space left on device"
  let plain := "write error: " ++ reason
  let stream := "'standard output': " ++ reason
  match tool with
  | "awk" | "mawk" => (["close failed on file /dev/stdout (" ++ reason ++ ")"], 2)
  | "cat" => ([if isClosed then "standard output: " ++ reason else plain], 1)
  | "dd" => (["error writing " ++ stream] ++ if isClosed then ["closing output file " ++ stream] else [], 1)
  | "diff" => (["standard output: " ++ reason], 2)
  | "env" | "nice" => ([plain], 125)
  | "expr" | "tty" => ([plain], 3)
  | "find" => ([stream, if isClosed then plain else "write error"], 1)
  | "grep" | "egrep" | "fgrep" | "ls" | "dir" | "vdir" | "printenv" => ([plain], 2)
  | "sed" => ([(if isClosed then "couldn't close stdout: " else "couldn't flush stdout: ") ++ reason], 4)
  | "sort" => (["fflush failed: " ++ stream, "write error"], 2)
  | "split" => (["-: " ++ reason], 1)
  | "tee" => ([stream], 1)
  | "yes" => (["standard output: " ++ reason], 1)
  | _ => ([if !isClosed && promptTools.contains tool then "write error" else plain], 1)

/-- Writes the output of a tool that ends with a status. A stream that takes nothing is an error of the
tool. -/
def putOutput (sh : Shell) (tool title output : String) (status : Nat) : Nat × Shell :=
  let isClosed := (sh.stream? 1).isNone
  let (isWritten, sh) := sh.write 1 output
  if isWritten && !(isClosed && (tool == "cat" || tool == "sed")) then (status, sh)
  else
    let (lines, least) := writeFault tool isClosed
    (max status least, lines.foldl (fun sh text => (sh.write 2 (title ++ ": " ++ text ++ "\n")).2) sh)

/-- The file of the disk that a descriptor leads to. -/
def fileOf (sh : Shell) (descriptor : Nat) : Option Nat :=
  match ((sh.stream? descriptor).bind fun i => sh.world.streams[i]?).map Stream.endpoint with
  | some (.file n) => some n
  | _ => none

/-- Runs a tool under the name by which it is called. -/
def runTool (sh : Shell) (tool name : String) (act : Tool Unit) : Nat × Shell :=
  let stream := (sh.stream? 0).bind fun i => sh.world.streams[i]?
  let fault := match stream.map Stream.endpoint with
    | some .folder => some DiskFault.isDirectory
    | _ => none
  let input := match stream.map Stream.endpoint with
    | some .zeros => List.replicate Tool.endless (Char.ofNat 0)
    | _ => sh.unread 0
  let together := (sh.stream? 1).isSome && sh.stream? 1 == sh.stream? 2 && !lateTools.contains tool
  let w := (act.run ⟨name, input, sh.fileOf 0, sh.fileOf 1, fault, "", [], together, 0, sh.world.disk, sh.folder,
    sh.mask, sh.environment⟩).2
  let sh := (sh.consume 0 (input.length - w.input.length)).setDisk w.disk
  if together && !w.errors.isEmpty then
    let (sh, _, rest) := w.errors.reverse.foldl (fun (sh, (written : Nat), rest) (mark, text) =>
      let sh := (sh.write 1 (String.ofList (rest.take (mark - written)))).2
      ((sh.write 2 text).2, max mark written, rest.drop (mark - written))) (sh, 0, w.output.toList)
    sh.putOutput tool name (String.ofList rest) w.status
  else ((sh.write 2 w.errorText).2).putOutput tool name w.output w.status

/-- The process of a program that a tool at work runs: it has the tool's disk, folder and input, and what it
writes is kept in two streams, or in one for both. -/
def enterWork (sh : Shell) (w : Work) : Nat × Nat × Shell :=
  let (output, child) := (({ sh with folder := w.folder }.setDisk w.disk).withInput (String.ofList w.input)).withKept 1
  if w.together then (output, output, child.setDescriptor 2 output)
  else
    let (errors, child) := child.withKept 2
    (output, errors, child)

/-- What a tool at work has done after such a process has ended. -/
def leaveWork (child : Shell) (output errors : Nat) (w : Work) : Work :=
  let w := if output = errors then w else w.note (child.kept errors)
  { w with
    disk := child.world.disk
    input := child.unread 0
    output := w.output ++ child.kept output }

/-! ### Programs -/

/-- What a name of a program leads to. -/
inductive Found
  | tool (name : String)
  | script (path : String) (text : String)
  | denied
  | missing

/-- The program at a path. -/
def programAt (sh : Shell) (path : String) : Found :=
  match sh.world.disk.find sh.folder path with
  | .ok (_, .program n) => .tool n
  | .ok (_, .file n) =>
    match sh.world.disk.content? n with
    | some c => if c.mode &&& 0o111 ≠ 0 then .script path c.text else .denied
    | none => .missing
  | .ok _ => .denied
  | .error .denied => .denied
  | .error _ => .missing

/-- The folders in which programs are looked for. -/
def programFolders (sh : Shell) : List String :=
  let path := (sh.value? "PATH").getD ""
  (cutAt ':' path.toList).map fun p => if p.isEmpty then "." else String.ofList p

/-- The program of a name: at a path, or in the first folder that has it. -/
def program (sh : Shell) (name : String) : Found :=
  if name.isEmpty then .missing
  else if name.contains '/' then sh.programAt name
  else
    let found := sh.programFolders.map fun folder => sh.programAt (Tool.inside folder name)
    let isUsable : Found → Bool
      | .tool _ | .script _ _ => true
      | _ => false
    match found.find? isUsable with
    | some f => f
    | none => if found.any (fun | .denied => true | _ => false) then .denied else .missing

/-- Where the program of a name lies. -/
def programPath? (sh : Shell) (name : String) : Option String :=
  let isUsable (path : String) : Bool :=
    match sh.programAt path with
    | .tool _ | .script _ _ => true
    | _ => false
  if name.contains '/' then if isUsable name then some name else none
  else (sh.programFolders.map fun folder => Tool.inside folder name).find? isUsable

/-- Shells, by the names of their programs. -/
def shells : List String := ["sh", "dash", "bash"]

/-- The interpreter in a script's first line, with its one argument. -/
def interpreter? (text : String) : Option (String × List String) :=
  match text.toList with
  | '#' :: '!' :: r =>
    let line := (r.takeWhile (· ≠ '\n')).dropWhile fun c => c == ' ' || c == '\t'
    let name := line.takeWhile fun c => c ≠ ' ' && c ≠ '\t'
    let rest := (line.drop name.length).dropWhile fun c => c == ' ' || c == '\t'
    let rest := (rest.reverse.dropWhile fun c => c == ' ' || c == '\t').reverse
    some (String.ofList name, if rest.isEmpty then [] else [String.ofList rest])
  | _ => none

/-! ### Descriptions of commands -/

/-- Words that belong to the language. -/
def keywords : List String :=
  ["!", "case", "do", "done", "elif", "else", "esac", "fi", "for", "if", "in", "then", "until", "while",
    "\x7b", "\x7d"]

/-- What a name stands for, in few words or in many. -/
def describe (sh : Shell) (long : Bool) (name : String) : Option String :=
  let about (short text : String) : String := if long then name ++ " is " ++ text else short
  if keywords.contains name then some (about name "a shell keyword")
  else if let some text := sh.aliases.lookup name then
    some (if long then name ++ " is an alias for " ++ text
      else "alias " ++ name ++ "=" ++ Builtin.quoted text)
  else if (sh.functions.lookup name).isSome ∧ !Builtin.isSpecial name then
    some (about name "a shell function")
  else if Builtin.isSpecial name then some (about name "a special shell builtin")
  else if Builtin.isRegular name then some (about name "a shell builtin")
  else (sh.programPath? name).map fun p => about p p

/-- Describes names for a command, in which one that stands for nothing is an error. -/
def describeAll (sh : Shell) (command : String) (long : Bool) (names : List String) : Shell :=
  let lines := names.map fun name =>
    match sh.describe long name with
    | some text => text ++ "\n"
    | none => if long then name ++ ": not found\n" else ""
  let isKnown := names.all fun name => (sh.describe long name).isSome
  sh.report command (String.join lines) (if isKnown then 0 else 127)

/-- Says where programs lie. -/
def locateAll (sh : Shell) (names : List String) : Shell :=
  names.foldl (fun sh n =>
    match sh.programPath? n with
    | some p => (sh.write 1 (p ++ "\n")).2
    | none => sh.withStatus 1) (sh.withStatus 0)

/-! ### New shells -/

/-- What a shell is to do, by its arguments. -/
structure Invocation where
  options : List Char
  /-- A text to run. -/
  text : Option String
  /-- The words behind the options. -/
  words : List String

/-- Reads the arguments of a shell; an option that there is not is an error. -/
def invocation (arguments : List String) : Except String Invocation :=
  let rec go : Nat → List String → List Char → Bool → Except String Invocation
    | 0, words, options, _ => .ok ⟨options, none, words⟩
    | fuel + 1, words, options, wantsText =>
      let finish (words : List String) : Except String Invocation :=
        match wantsText, words with
        | true, text :: rest => .ok ⟨options, some text, rest⟩
        | true, [] => .error "-c requires an argument"
        | false, _ => .ok ⟨options, none, words⟩
      match words with
      | "--" :: rest | "-" :: rest => finish rest
      | "-o" :: name :: rest =>
        match Builtin.optionNames.find? (·.2 == name) with
        | some o => go fuel rest (o.1 :: options) wantsText
        | none => .error ("Illegal option -o " ++ name)
      | s :: rest =>
        match s.toList with
        | '-' :: letters =>
          match letters.find? fun c => c ≠ 'c' ∧ c ≠ 'l' ∧ !Builtin.optionNames.any (·.1 == c) with
          | some c => .error ("Illegal option -" ++ c.toString)
          | none =>
            go fuel rest (letters.filter (fun c => c ≠ 'c' ∧ c ≠ 'l') ++ options)
              (wantsText || letters.contains 'c')
        | '+' :: letters => go fuel rest (options.filter fun c => !letters.contains c) wantsText
        | _ => finish words
      | [] => finish []
  go (arguments.length + 1) arguments [] false

/-- Where programs are looked for if nothing else is said. -/
def standardPath : String := "/usr/local/sbin:/usr/local/bin:/usr/sbin:/usr/bin:/sbin:/bin"

/-- The variables that a shell sets if nobody else has. -/
def standardVariables : List (String × Variable) :=
  [("PATH", standardPath), ("PS1", "# "), ("PS2", "> "), ("PS4", "+ ")].map
    fun (n, x) => (n, ⟨some x, false, false⟩)

/-- The process of a new shell. -/
def newShell (sh : Shell) (name : String) (options : List Char) (parameters : List String) : Shell :=
  let inherited := sh.environment.map fun (n, x) => (n, Variable.mk (some x) true false)
  let ordered := Builtin.optionNames.filterMap fun (o, _) => if options.contains o then some o else none
  { number := sh.world.nextProcess
    ancestors := sh.number :: sh.ancestors
    shellNumber := sh.world.nextProcess
    folder := sh.folder
    route := sh.route
    name
    parameters
    bindings := (("OPTIND", ⟨some "1", false, false⟩) :: ("PPID", ⟨some (decimal sh.number), false, false⟩) ::
      ("PWD", ⟨some sh.route, true, false⟩) :: ("IFS", ⟨some " \t\n", false, false⟩) ::
      inherited.filter (fun v => !(["PWD", "IFS", "OPTIND", "PPID"].contains v.1)) ++
      standardVariables.filter (fun v => (inherited.lookup v.1).isNone))
    given := none
    functions := []
    aliases := []
    descriptors := sh.descriptors
    options := ordered
    traps := sh.traps.filter (·.2 == "")
    status := 0
    flow := .go
    loops := 0
    hidden := []
    lastJob := none
    line := 1
    outputStatus := 0
    mask := sh.mask
    trapped := none
    lettersTaken := 0
    world := { sh.world with nextProcess := sh.world.nextProcess + 1 }
    jobs := [] }

/-! ### Jobs -/

/-- Puts a command into the background. -/
def startJob (sh : Shell) (c : Command) : Shell :=
  let number := sh.world.nextProcess
  { sh with
    world.nextProcess := number + 1
    jobs := sh.jobs ++ [⟨number, c, sh.toProcess, none⟩]
    lastJob := some number
    status := 0 }

/-- The process in which a job runs. -/
def jobProcess (sh : Shell) (j : Job) : Shell :=
  { ({ toProcess := j.start, world := sh.world, jobs := [] : Shell }).part.withoutInput with number := j.number }

def setJobStatus (sh : Shell) (number status : Nat) : Shell :=
  { sh with jobs := sh.jobs.map fun j => if j.number = number then { j with status := some status } else j }

end Shell

end PlanReuse.Script
