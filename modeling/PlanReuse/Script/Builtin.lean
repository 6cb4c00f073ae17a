import PlanReuse.Script.Condition
import PlanReuse.Script.Format
import PlanReuse.Script.Pattern
import PlanReuse.Script.Signal
import PlanReuse.Script.State
import PlanReuse.Script.Tool.Names
import PlanReuse.Script.Tool.Permissions

/-!
# Commands of the shell itself

Commands that a process carries out itself. One that refuses says why; for a special command that is also
the end of the process.
-/

namespace PlanReuse.Script

/-- A command with its arguments. -/
abbrev Builtin := List String → Shell → Except String Shell

namespace Builtin

def wantCount (s : String) : Except String Nat :=
  match countOf? s with
  | some n => .ok n
  | none => .error (illegalNumber s)

def badName (s : String) : String := s ++ ": bad variable name"

def illegalOption (s : String) : String := "Illegal option " ++ s

/-! ### Texts -/

def echo : Builtin := fun arguments sh =>
  let (newline, words) := match arguments with
    | "-n" :: ws => (false, ws)
    | ws => (true, ws)
  let (text, ended) := unescape (" ".intercalate words).toList
  .ok (sh.report "echo" (String.ofList text ++ if newline && !ended then "\n" else "") 0)

def printf : Builtin := fun arguments sh =>
  match (match arguments with
    | "--" :: as => as
    | as => as) with
  | [] => .error "usage: printf format [arg ...]"
  | format :: rest =>
    if arguments.head? ≠ some "--" ∧ format.startsWith "-" ∧ 1 < format.length then
      .error (illegalOption (String.ofList (format.toList.take 2)))
    else
      let p := Print.format false format rest
      let sh := p.complaints.reverse.foldl (fun sh c => sh.complain ("printf: " ++ c.2)) sh
      .ok (sh.report "printf" p.output p.status)

/-! ### Conditions -/

/-- What the disk says of files. -/
def fileTests (sh : Shell) : FileTests where
  has letter name :=
    let d := sh.world.disk
    let found := d.find sh.folder name
    match letter with
    | 'h' | 'L' =>
      match d.findName sh.folder name with
      | .ok (_, .link _) => true
      | _ => false
    | 't' => false
    | _ =>
      match found with
      | .error _ => false
      | .ok (p, e) =>
        let content := match e with
          | .file n => d.content? n
          | _ => none
        match letter, e with
        | 'f', .file _ | 'f', .program _ | 'd', .folder | 'c', .device _ => true
        | 'f', _ | 'd', _ | 'c', _ | 'b', _ | 'p', _ | 'S', _ => false
        | 'u', _ => d.modeOf p e &&& 0o4000 ≠ 0
        | 'g', _ => d.modeOf p e &&& 0o2000 ≠ 0
        | 'k', _ => d.modeOf p e &&& 0o1000 ≠ 0
        | 'O', _ => (d.ownerOf (Disk.node p e)).1 = 0
        | 'G', _ => (d.ownerOf (Disk.node p e)).2 = 0
        | 's', .file _ => content.any fun c => c.size ≠ 0
        | 's', .device _ => false
        | 'x', .file _ => content.any fun c => c.mode &&& 0o111 ≠ 0
        | 'x', .device _ => false
        | _, _ => true
  same a b :=
    match sh.world.disk.find sh.folder a, sh.world.disk.find sh.folder b with
    | .ok (p, e), .ok (q, f) => p == q || (match e with | .file _ => e == f | _ => false)
    | _, _ => false
  newer a b :=
    let d := sh.world.disk
    match d.find sh.folder a, d.find sh.folder b with
    | .ok (p, e), .ok (q, f) => decide (d.timeOf (Disk.node q f) < d.timeOf (Disk.node p e))
    | _, _ => false

def test : Builtin := fun arguments sh =>
  (condition (fileTests sh) arguments).map fun b => sh.withStatus (if b then 0 else 1)

def bracket : Builtin := fun arguments sh =>
  if arguments.getLast? = some "]" then test arguments.dropLast sh else .error "missing ]"

/-! ### Variables -/

/-- Splits an argument that assigns. -/
def splitAssignment (s : String) : String × Option String :=
  match s.toList.dropWhile (· ≠ '=') with
  | _ :: value => (String.ofList (s.toList.takeWhile (· ≠ '=')), some (String.ofList value))
  | [] => (s, none)

/-- A text in quotes, so that the shell reads it back. -/
def quoted (s : String) : String :=
  if s.contains '\'' then "'" ++ s.replace "'" "'\"'\"'" ++ "'" else "'" ++ s ++ "'"

/-- Marks a variable, and gives it a value if there is one. -/
def declareOne (mark : Variable → Variable) (sh : Shell) (s : String) : Except String Shell :=
  let (name, value) := splitAssignment s
  if !isName name then .error (badName name)
  else if value.isSome && sh.isFixed name then .error (name ++ ": is read only")
  else
    let sh := match value with
      | some x => sh.assign name x
      | none => sh
    .ok (sh.setVariable name (mark ((sh.variableAt? name).getD ⟨none, false, false⟩)))

/-- Marks variables, or lists those that are marked. -/
def declare (command : String) (mark : Variable → Variable) (isMarked : Variable → Bool) : Builtin :=
  fun arguments sh =>
    match arguments with
    | [] | ["-p"] =>
      let marked := (sh.bindings.filter fun v => isMarked v.2).mergeSort fun a b => decide (a.1 ≤ b.1)
      let lines := marked.map fun (name, v) =>
        command ++ " " ++ name ++ (match v.value with | some x => "=" ++ quoted x | none => "") ++ "\n"
      .ok (sh.report command (String.join lines) 0)
    | _ =>
      let arguments := if arguments.head? = some "--" then arguments.tail else arguments
      (arguments.foldlM (declareOne mark) sh).map fun sh => sh.withStatus 0

def exportAll : Builtin := declare "export" (fun v => { v with exported := true }) Variable.exported

def readonly : Builtin := declare "readonly" (fun v => { v with fixed := true }) Variable.fixed

/-- Hides a variable until the function at hand ends; under a minus the options are kept. -/
def hide (sh : Shell) (name : String) : Shell :=
  let old := if name = "-" then some ⟨some (String.ofList sh.options), false, false⟩ else sh.variableAt? name
  match sh.hidden with
  | [] => sh
  | h :: hs => if h.any (·.1 == name) then sh else { sh with hidden := ((name, old) :: h) :: hs }

/-- Gives a function a variable of its own, with the value that it hides at first. -/
def localOne (sh : Shell) (s : String) : Except String Shell :=
  let (name, value) := splitAssignment s
  if s = "-" then .ok (hide sh "-")
  else if !isName name then .error (badName name)
  else if value.isSome && sh.isFixed name then .error (name ++ ": is read only")
  else
    let sh := hide sh name
    .ok (match value with
      | some x => sh.assign name x
      | none => sh)

def localAll : Builtin := fun arguments sh =>
  if sh.hidden.isEmpty then .error "not in a function"
  else (arguments.foldlM localOne sh).map fun sh => sh.withStatus 0

def unsetOne (functions : Bool) (sh : Shell) (name : String) : Except String Shell :=
  if functions then .ok { sh with functions := sh.functions.filter (·.1 ≠ name) }
  else if !isName name then .error (badName name)
  else if sh.isFixed name then .error (name ++ ": is read only")
  else .ok (sh.dropVariable name)

def unset : Builtin := fun arguments sh =>
  let (functions, names) := match arguments with
    | "-f" :: ns => (true, ns)
    | "-v" :: ns | "--" :: ns => (false, ns)
    | ns => (false, ns)
  (names.foldlM (unsetOne functions) sh).map fun sh => sh.withStatus 0

/-- The options with letters and names. -/
def optionNames : List (Char × String) :=
  [('e', "errexit"), ('f', "noglob"), ('I', "ignoreeof"), ('i', "interactive"), ('m', "monitor"),
    ('n', "noexec"), ('s', "stdin"), ('x', "xtrace"), ('v', "verbose"), ('V', "vi"), ('E', "emacs"),
    ('C', "noclobber"), ('a', "allexport"), ('b', "notify"), ('u', "nounset"), ('p', "privileged")]

def setOption (sh : Shell) (on : Bool) (c : Char) : Except String Shell :=
  if optionNames.any (·.1 == c) then
    let others := sh.options.filter (· ≠ c)
    let chosen := optionNames.filterMap fun (o, _) =>
      if others.contains o || (on && o == c) then some o else none
    .ok { sh with options := chosen }
  else .error (illegalOption ((if on then "-" else "+") ++ c.toString))

/-- The options as a list, or as commands that set them. -/
def optionsText (sh : Shell) (asCommands : Bool) : String :=
  let line (o : Char × String) : String :=
    let on := sh.has o.1
    if asCommands then "set " ++ (if on then "-" else "+") ++ "o " ++ o.2 ++ "\n"
    else o.2 ++ String.ofList (List.replicate (16 - o.2.length) ' ') ++ (if on then "on" else "off") ++ "\n"
  (if asCommands then "" else "Current option settings\n") ++
    String.join ((optionNames ++ [(' ', "nolog"), (' ', "debug")]).map line)

/-- Sets options, and the parameters if any are given. -/
def setAll : Nat → Builtin
  | 0, _, sh => .ok sh
  | fuel + 1, arguments, sh =>
    match arguments with
    | [] => .ok sh
    | "--" :: ps => .ok { sh with parameters := ps }
    | "-" :: ps =>
      let sh := { sh with options := sh.options.filter fun c => c ≠ 'x' ∧ c ≠ 'v' }
      .ok (if ps.isEmpty then sh else { sh with parameters := ps })
    | "-o" :: [] => .ok (sh.report "set" (optionsText sh false) 0)
    | "+o" :: [] => .ok (sh.report "set" (optionsText sh true) 0)
    | s :: rest =>
      match s.toList with
      | sign :: letters =>
        if (sign = '-' ∨ sign = '+') ∧ !letters.isEmpty then do
          let on := sign == '-'
          let named := letters.contains 'o'
          let sh ← (letters.filter (· ≠ 'o')).foldlM (fun sh c => setOption sh on c) sh
          match named, rest with
          | true, name :: rest =>
            match optionNames.find? (·.2 == name) with
            | some o => setAll fuel rest (← setOption sh on o.1)
            | none => .error (illegalOption (sign.toString ++ "o " ++ name))
          | _, _ => setAll fuel rest sh
        else .ok { sh with parameters := s :: rest }
      | [] => .ok { sh with parameters := s :: rest }

def set : Builtin := fun arguments sh =>
  if arguments.isEmpty then
    let values := (sh.bindings.filterMap fun (n, v) => v.value.map fun x => (n, x)).mergeSort
      fun a b => decide (a.1 ≤ b.1)
    .ok (sh.report "set" (String.join (values.map fun (n, x) => n ++ "=" ++ quoted x ++ "\n")) 0)
  else setAll (arguments.length + 1) arguments (sh.withStatus 0)

def shift : Builtin := fun arguments sh => do
  let n ← match arguments with
    | s :: _ => wantCount s
    | [] => pure 1
  if sh.parameters.length < n then throw "can't shift that many"
  return { sh with parameters := sh.parameters.drop n, status := 0 }

/-! ### Reading -/

/-- Splits a line over some variables; the last one takes what is left. A character is marked if a
backslash came before it. -/
def splitLine (separators : List Char) : List String → List Marked → List (String × String)
  | [], _ => []
  | names, s =>
    let isSeparator (m : Marked) : Bool := !m.2 && separators.contains m.1
    let isBlank (m : Marked) : Bool := isSeparator m && isSpace m.1
    let s := s.dropWhile isBlank
    match names with
    | [] => []
    | [name] =>
      let body := (s.reverse.dropWhile isBlank).reverse
      let field := body.takeWhile fun m => !isSeparator m
      let rest := body.drop field.length
      let only := match (rest.dropWhile isBlank) with
        | m :: more => isSeparator m && (more.dropWhile isBlank).isEmpty
        | [] => false
      [(name, String.ofList ((if only then field else body).map Prod.fst))]
    | name :: more =>
      let field := s.takeWhile fun m => !isSeparator m
      let rest := (s.drop field.length).dropWhile isBlank
      let rest := match rest with
        | m :: r => if isSeparator m && !isBlank m then r else rest
        | [] => []
      (name, String.ofList (field.map Prod.fst)) :: splitLine separators more rest

/-- A line of the input, how many characters it takes, and whether it has a line feed. -/
def takeLine (raw : Bool) : List Char → List Marked × Nat × Bool
  | [] => ([], 0, false)
  | ['\\'] => if raw then ([('\\', false)], 1, false) else ([], 1, false)
  | '\\' :: c :: r =>
    if raw then
      let (line, n, ended) := takeLine raw (c :: r)
      (('\\', false) :: line, n + 1, ended)
    else
      let (line, n, ended) := takeLine raw r
      (if c = '\n' then line else (c, true) :: line, n + 2, ended)
  | '\n' :: _ => ([], 1, true)
  | c :: r =>
    let (line, n, ended) := takeLine raw r
    (if c.toNat = 0 then line else (c, false) :: line, n + 1, ended)

def read : Builtin := fun arguments sh =>
  let rec options : List String → Bool → Except String (Bool × List String)
    | "-r" :: r, _ => options r true
    | "-p" :: _ :: r, raw => options r raw
    | "--" :: r, raw => .ok (raw, r)
    | s :: r, raw =>
      if s.startsWith "-" ∧ 1 < s.length then .error (illegalOption (String.ofList (s.toList.take 2)))
      else .ok (raw, s :: r)
    | [], raw => .ok (raw, [])
  do
    let (raw, names) ← options arguments false
    if names.isEmpty then throw "arg count"
    match names.find? fun n => !isName n with
    | some n => throw (badName n)
    | none =>
      let (line, count, ended) := takeLine raw (sh.unread 0)
      let sh := sh.consume 0 count
      let values := splitLine sh.separators names line
      let values := values ++ (names.drop values.length).map fun n => (n, "")
      let sh ← values.foldlM (fun sh (n, x) =>
        if sh.isFixed n then .error (n ++ ": is read only") else .ok (sh.assign n x)) sh
      return sh.withStatus (if ended then 0 else 1)

/-- Takes the next option from arguments. -/
def getopts : Builtin := fun arguments sh =>
  match arguments with
  | spec :: name :: rest =>
    let words := if rest.isEmpty then sh.parameters else rest
    let place := ((sh.value? "OPTIND").bind countOf?).getD 1
    let place := if place = 0 then 1 else place
    let word := (words[place - 1]?).getD ""
    let letters := spec.toList
    let silent := letters.head? == some ':'
    let done (sh : Shell) (place taken : Nat) (value : String) (status : Nat) : Except String Shell :=
      .ok { (sh.assign "OPTIND" (decimal place)).assign name value with lettersTaken := taken, status }
    let taken := if word.length ≤ sh.lettersTaken + 1 then 0 else sh.lettersTaken
    if taken = 0 ∧ (!word.startsWith "-" ∨ word = "-") then done sh place 0 "?" 1
    else if taken = 0 ∧ word = "--" then done sh (place + 1) 0 "?" 1
    else
      match word.toList.drop (taken + 1) with
      | [] => done sh place 0 "?" 1
      | c :: r =>
        let next := if r.isEmpty then (place + 1, 0) else (place, taken + 1)
        match letters.dropWhile (· ≠ c) with
        | [] => unknown sh done silent c next
        | _ :: after =>
          if c = ':' then unknown sh done silent c next
          else if after.head? ≠ some ':' then
            done (sh.dropVariable "OPTARG") next.1 next.2 c.toString 0
          else if !r.isEmpty then done (sh.assign "OPTARG" (String.ofList r)) (place + 1) 0 c.toString 0
          else
            match words[place]? with
            | some v => done (sh.assign "OPTARG" v) (place + 2) 0 c.toString 0
            | none =>
              if silent then done (sh.assign "OPTARG" c.toString) (place + 1) 0 ":" 0
              else
                done ((sh.write 2 ("No arg for -" ++ c.toString ++ " option\n")).2.dropVariable "OPTARG")
                  (place + 1) 0 "?" 0
  | _ => .error "Usage: getopts optstring var [arg]"
where
  unknown (sh : Shell) (done : Shell → Nat → Nat → String → Nat → Except String Shell) (silent : Bool)
      (c : Char) (next : Nat × Nat) : Except String Shell :=
    if silent then done (sh.assign "OPTARG" c.toString) next.1 next.2 "?" 0
    else
      done ((sh.write 2 ("Illegal option -" ++ c.toString ++ "\n")).2.dropVariable "OPTARG")
        next.1 next.2 "?" 0

/-! ### Folders -/

/-- A route from the top with its dots taken literally. -/
def tidyRoute (route : String) : String := (Path.tidy (Path.names route)).text

def cd : Builtin := fun arguments sh =>
  let (physical, rest) := match arguments with
    | "-P" :: r => (true, r)
    | "-L" :: r | "--" :: r => (false, r)
    | r => (false, r)
  let (target, announces) := match rest.head? with
    | none => ((sh.value? "HOME").getD "", false)
    | some "-" => ((sh.value? "OLDPWD").getD "", true)
    | some s => (s, false)
  let route := if target.startsWith "/" then target else Tool.inside sh.route target
  let tidy := tidyRoute route
  match sh.world.disk.find [] (if physical then route else tidy) with
  | .ok (p, .folder) =>
    let route := if physical then p.text else tidy
    let old := sh.route
    let sh := { sh with folder := p, route }
    let sh := (sh.assign "OLDPWD" old).assign "PWD" route
    .ok (if announces then sh.report "cd" (route ++ "\n") 0 else sh.withStatus 0)
  | _ => .error ("can't cd to " ++ target)

def pwd : Builtin := fun arguments sh =>
  .ok (sh.report "pwd" ((if arguments.head? = some "-P" then sh.folder.text else sh.route) ++ "\n") 0)

def umask : Builtin := fun arguments sh =>
  let digits (n : Nat) : String :=
    let ds := Nat.toDigits 8 n
    String.ofList (List.replicate (4 - ds.length) '0' ++ ds)
  let letters (n : Nat) : String :=
    (if n &&& 4 ≠ 0 then "r" else "") ++ (if n &&& 2 ≠ 0 then "w" else "") ++
      (if n &&& 1 ≠ 0 then "x" else "")
  match arguments with
  | [] => .ok (sh.report "umask" (digits sh.mask ++ "\n") 0)
  | ["-S"] =>
    let m := 0o777 - sh.mask
    .ok (sh.report "umask" ("u=" ++ letters (m / 64) ++ ",g=" ++ letters (m / 8 % 8) ++ ",o=" ++
      letters (m % 8) ++ "\n") 0)
  | s :: _ =>
    if (s.toList.head?).any Char.isDigit then
      if s.toList.all isOctal then
        .ok { sh with mask := (scanDigits 8 0 s.toList).1 % 0o1000, status := 0 }
      else .error (illegalNumber s)
    else
      match Tool.newMode? 0 false s (0o777 - sh.mask) with
      | some m => .ok { sh with mask := 0o777 - m, status := 0 }
      | none => .error ("Illegal mode: " ++ s)

/-! ### Leaving -/

def leave (again : Bool) : Builtin := fun arguments sh => do
  let n ← match arguments with
    | s :: _ => wantCount s
    | [] => pure 1
  if n = 0 then throw (illegalNumber (arguments.headD "0"))
  let n := min n sh.loops
  return if n = 0 then sh.withStatus 0 else { sh with flow := .leaveLoops n again, status := 0 }

def leaveFunction : Builtin := fun arguments sh => do
  let status ← match arguments with
    | s :: _ => wantCount s
    | [] => pure sh.status
  return { sh with flow := .leaveFunction, status }

def exit : Builtin := fun arguments sh => do
  let status ← match arguments with
    | s :: _ => wantCount s
    | [] => pure (sh.trapped.getD sh.status)
  return sh.exitWith status

/-! ### Signals and jobs -/

def trap : Builtin := fun arguments sh =>
  let arguments := if arguments.head? = some "--" then arguments.tail else arguments
  match arguments with
  | [] =>
    let lines := (sh.traps.mergeSort fun a b => decide (a.1 ≤ b.1)).map fun (n, action) =>
      "trap -- " ++ quoted action ++ " " ++ signalName n ++ "\n"
    .ok (sh.report "trap" (String.join lines) 0)
  | first :: more =>
    let (action, names) : Option String × List String :=
      if more.isEmpty || (signalOf? first).isSome then (none, arguments)
      else (if first = "-" then none else some first, more)
    let rec apply : List String → Shell → Shell
      | [], sh => sh.withStatus 0
      | s :: ss, sh =>
        match signalOf? s with
        | none => ((sh.write 2 ("trap: " ++ s ++ ": bad trap\n")).2).withStatus 1
        | some n =>
          let others := sh.traps.filter (·.1 ≠ n)
          apply ss { sh with traps := match action with
            | some a => others ++ [(n, a)]
            | none => others }
    .ok (apply names sh)

def killUsage : String :=
  "Usage: kill [-s sigspec | -signum | -sigspec] [pid | job]... or\nkill -l [exitstatus]"

/-- The job that a text names, by its place or its number. -/
def job? (sh : Shell) (s : String) : Option Job :=
  match s.toList with
  | '%' :: r =>
    if r = [] ∨ r = ['%'] ∨ r = ['+'] then sh.jobs.getLast?
    else (countOf? (String.ofList r)).bind fun n => sh.jobs[n - 1]?
  | _ => (countOf? s).bind fun n => sh.jobs.find? (·.number == n)

/-- Sends a signal to the process or the job that a text names. -/
def sendTo (signal : Nat) (s : String) (sh : Shell) : Except String Shell :=
  let number := integerOf? 10 s
  if number = some (sh.number : Int) ∨ number = some 0 then
    .ok { sh with world.signals := sh.world.signals ++ [(sh.number, signal)] }
  else if let some target := sh.ancestors.find? (fun n : Nat => number == some (n : Int)) then
    .ok { sh with world.signals := sh.world.signals ++ [(target, signal)] }
  else
    match job? sh s with
    | some j =>
      if j.status.isNone then
        .ok { sh with jobs := sh.jobs.map fun k =>
          if k.number = j.number ∧ isDeadly signal then { k with status := some (128 + signal) } else k }
      else .ok ((sh.complain "kill: No such process\n").withStatus 1)
    | none =>
      if s.startsWith "%" then .error ("No such job: " ++ s)
      else if number.isNone then .error (illegalNumber s)
      else .ok ((sh.complain "kill: No such process\n").withStatus 1)

def kill : Builtin := fun arguments sh => do
  let sendAll (signal : Nat) (targets : List String) : Except String Shell :=
    if targets.isEmpty then .error killUsage
    else targets.foldlM (fun sh s => sendTo signal s sh) (sh.withStatus 0)
  match arguments with
  | [] => throw killUsage
  | "-l" :: rest =>
    match rest with
    | [] =>
      let names := (List.range (lastSignal + 1)).map fun n =>
        (if n = 0 then "0" else signalName n) ++ "\n"
      return sh.report "kill" (String.join names) 0
    | s :: _ =>
      let n ← wantCount s
      return sh.report "kill" (signalName (if 128 < n then n - 128 else n) ++ "\n") 0
  | ["-s"] => throw "No arg for -s option"
  | "-s" :: name :: targets =>
    match signalOf? name with
    | some n => sendAll n targets
    | none => throw ("invalid signal number or name: " ++ name)
  | "--" :: targets => sendAll 15 targets
  | first :: targets =>
    match first.toList with
    | '-' :: '-' :: _ => throw (illegalOption "--")
    | '-' :: c :: r =>
      if c = 's' then
        match signalOf? (String.ofList r) with
        | some n => sendAll n targets
        | none => throw ("invalid signal number or name: " ++ String.ofList r)
      else
        match signalOf? (String.ofList (c :: r)) with
        | some n => sendAll n (if targets.head? = some "--" then targets.tail else targets)
        | none => throw (illegalOption ("-" ++ c.toString))
    | _ => sendAll 15 arguments

def jobs : Builtin := fun _ sh => .ok (sh.withStatus 0)

def times : Builtin := fun _ sh =>
  let line := "0m0.000000s 0m0.000000s\n"
  .ok (sh.report "times" (line ++ line) 0)

/-! ### Aliases -/

def aliasLine (name text : String) : String := name ++ "=" ++ quoted text ++ "\n"

/-- Sets aliases, or shows them. -/
def aliases : Builtin := fun arguments sh =>
  if arguments.isEmpty then
    .ok (sh.report "alias" (String.join ((bySlot sh.aliases).map fun a => aliasLine a.1 a.2)) 0)
  else
    .ok (arguments.foldl (fun sh s =>
      let name := s.toList.take 1 ++ (s.toList.drop 1).takeWhile (· ≠ '=')
      match s.toList.drop name.length with
      | '=' :: text => { sh with aliases := putNamed (String.ofList name) (String.ofList text) sh.aliases }
      | _ =>
        match sh.aliases.lookup s with
        | some text => (sh.write 1 (aliasLine s text)).2
        | none => ((sh.write 2 ("alias: " ++ s ++ " not found\n")).2).withStatus 1) (sh.withStatus 0))

def unalias : Builtin := fun arguments sh =>
  if arguments.head? = some "-a" then .ok { sh with aliases := [], status := 0 }
  else
    .ok (arguments.foldl (fun sh s =>
      if (sh.aliases.lookup s).isSome then { sh with aliases := sh.aliases.filter (·.1 ≠ s) }
      else ((sh.write 2 ("unalias: " ++ s ++ " not found\n")).2).withStatus 1) (sh.withStatus 0))

/-! ### Limits -/

def ulimit : Builtin := fun arguments sh =>
  if arguments.all (·.startsWith "-") then .ok (sh.report "ulimit" "unlimited\n" 0)
  else .ok (sh.withStatus 0)

/-! ### Which there are -/

/-- Commands that no function hides, and that end the process when they refuse. -/
def special : List (String × Builtin) :=
  [(":", fun _ sh => .ok (sh.withStatus 0)), ("break", leave false), ("continue", leave true),
    ("exit", exit), ("export", exportAll), ("local", localAll), ("readonly", readonly), ("return", leaveFunction),
    ("set", set), ("shift", shift), ("times", times), ("trap", trap), ("unset", unset)]

def regular : List (String × Builtin) :=
  [("[", bracket), ("alias", aliases), ("cd", cd), ("chdir", cd), ("echo", echo),
    ("false", fun _ sh => .ok (sh.withStatus 1)), ("getopts", getopts), ("jobs", jobs), ("kill", kill),
    ("printf", printf), ("pwd", pwd), ("read", read), ("test", test),
    ("true", fun _ sh => .ok (sh.withStatus 0)), ("ulimit", ulimit), ("umask", umask),
    ("unalias", unalias), ("fg", fun _ _ => .error "No current job"),
    ("bg", fun _ _ => .error "No current job")]

/-- Commands of the shell that run others. -/
def runners : List String := ["command", "hash", "type", "wait"]

def specialRunners : List String := [".", "eval", "exec"]

def isSpecial (name : String) : Bool := (special.lookup name).isSome || specialRunners.contains name

def isRegular (name : String) : Bool := (regular.lookup name).isSome || runners.contains name

end Builtin

end PlanReuse.Script
