import PlanReuse.Script.Process
import PlanReuse.Script.Scan.Call
import PlanReuse.Script.Tool.Batches

/-!
# Programs that run others

What the arguments of a program that runs another one say: the environment and the folder in which it runs,
how long it may run, and its words.
-/

namespace PlanReuse.Script

namespace Shell

/-- Tools that run other programs. -/
def carriers : List String :=
  ["awk", "env", "flock", "ionice", "mawk", "nice", "nohup", "setsid", "stdbuf", "timeout", "xargs"]

/-- Where help is found. -/
def helpLine (name : String) : String := "Try '" ++ name ++ " --help' for more information.\n"

/-- What is said about an option that there is not. -/
def misuseOf (name text : String) : String := name ++ ": " ++ text ++ "\n" ++ helpLine name

/-- The words of a text, with quotes and backslashes as in commands. -/
def wordsOfText (fuel : Nat) (word : Option (List Char)) (quote : Option Char) : List Char → List String
  | [] => (word.map fun w => String.ofList w.reverse).toList
  | c :: r =>
    match fuel with
    | 0 => []
    | fuel + 1 =>
      let add (c : Char) (r : List Char) : List String := wordsOfText fuel (some (c :: word.getD [])) quote r
      match quote with
      | some q =>
        if c = q then wordsOfText fuel (some (word.getD [])) none r
        else if c = '\\' ∧ q = '"' then
          match r with
          | d :: r => add d r
          | [] => add c []
        else add c r
      | none =>
        if c = '\'' ∨ c = '"' then wordsOfText fuel (some (word.getD [])) (some c) r
        else if isSpace c then
          (word.map fun w => String.ofList w.reverse).toList ++ wordsOfText fuel none none r
        else if c = '#' ∧ word.isNone then []
        else if c = '\\' then
          match r with
          | '_' :: r => (word.map fun w => String.ofList w.reverse).toList ++ wordsOfText fuel none none r
          | d :: r => add ((Regex.controlSign? d).getD d) r
          | [] => []
        else add c r

/-- Options in which the texts that hold several words are taken apart. -/
def withSplitTexts : Nat → List String → List String
  | 0, ws => ws
  | _ + 1, [] => []
  | fuel + 1, s :: rest =>
    let words (text : String) : List String := wordsOfText (text.length + 1) none none text.toList
    if s.startsWith "--split-string=" then withSplitTexts fuel (words (s.drop 15).toString ++ rest)
    else
      match s.toList with
      | '-' :: r =>
        let front := r.takeWhile fun c => "iv0".contains c
        match r.drop front.length, rest with
        | ['S'], text :: rest =>
          (if front.isEmpty then [] else [String.ofList ('-' :: front)]) ++ withSplitTexts fuel (words text ++ rest)
        | 'S' :: text, rest =>
          (if front.isEmpty then [] else [String.ofList ('-' :: front)]) ++
            withSplitTexts fuel (words (String.ofList text) ++ rest)
        | ['u'], name :: rest | ['C'], name :: rest => s :: name :: withSplitTexts fuel rest
        | _, _ => if s = "--" then s :: rest else s :: withSplitTexts fuel rest
      | [] | _ :: _ => s :: rest

/-- Variables with those that words in front set, and the other words. -/
def setEach (given : List (String × String)) : List String → List String × List (String × String)
  | s :: rest =>
    match s.toList.contains '=', Builtin.splitAssignment s with
    | true, (name, some value) => setEach (putNamed name value given) rest
    | _, _ => (s :: rest, given)
  | [] => ([], given)

/-- A process in which programs are given some variables. -/
def withEnvironment (sh : Shell) (environment : List (String × String)) : Shell :=
  { sh with
    given := some environment
    bindings := environment.map fun (name, x) => (name, ⟨some x, true, false⟩) }

/-- The process for a program in an environment that options and words change, the words of the program, and
whether variables are shown with zeros behind them. -/
def inEnvironment (title : String) (arguments : List String) (sh : Shell) : Except String (List String × Shell × Bool) := do
  let grammar : Tool.Grammar := ⟨"i0v", "uC", "", [("ignore-environment", 'i'), ("null", '0'), ("unset", 'u'),
    ("chdir", 'C'), ("debug", 'v')]⟩
  match Tool.readArguments grammar false (withSplitTexts (arguments.length + 1000) arguments) with
  | .error text => .error (misuseOf title text)
  | .ok a =>
    let (bare, words) := match a.operands with
      | "-" :: rest => (true, rest)
      | words => (false, words)
    let given := if bare || a.has 'i' then [] else sh.environment
    let (words, given) := setEach (given.filter fun v => !(a.values 'u').contains v.1) words
    let child := sh.withEnvironment given
    let child ← match a.value? 'C' with
      | none => .ok child
      | some name =>
        match sh.world.disk.find sh.folder name with
        | .ok (p, .folder) => .ok { child with folder := p, route := p.text }
        | .ok _ => .error (title ++ ": cannot change directory to '" ++ name ++ "': Not a directory\n")
        | .error fault => .error (title ++ ": cannot change directory to '" ++ name ++ "': " ++ fault.message ++ "\n")
    if a.has '0' && !words.isEmpty then throw (misuseOf title "cannot specify --null (-0) with command")
    return (words, child, a.has '0')

/-- How long a program may run. -/
structure Deadline where
  /-- None is no limit. -/
  nanoseconds : Option Nat
  signal : Nat
  /-- Whether the status of a program that was stopped is its own. -/
  keepsStatus : Bool
  words : List String

/-- The limit that arguments set. -/
def deadlineOf (title : String) (arguments : List String) : Except String Deadline := do
  let grammar : Tool.Grammar := ⟨"vfπ", "ks", "", [("foreground", 'f'), ("kill-after", 'k'), ("signal", 's'),
    ("preserve-status", 'π'), ("verbose", 'v')]⟩
  match Tool.readArguments grammar false arguments with
  | .error text => .error (misuseOf title text)
  | .ok a =>
    let signal ← match a.value? 's' with
      | none => .ok 15
      | some s =>
        match signalOf? (if s.toUpper.startsWith "SIG" then (s.drop 3).toString else s) with
        | some n => .ok n
        | none => .error (misuseOf title ("'" ++ s ++ "': invalid signal"))
    match a.operands with
    | [] | [_] => .error (helpLine title)
    | time :: words =>
      match (a.value? 'k').toList.find? (fun s => (Tool.interval? s).isNone), Tool.interval? time with
      | some s, _ => .error (misuseOf title ("invalid time interval '" ++ s ++ "'"))
      | _, none => .error (misuseOf title ("invalid time interval '" ++ time ++ "'"))
      | _, some n => return ⟨if n = 0 then none else some n, signal, a.has 'π', words⟩

/-- The words of a program behind the options of the program that runs it. -/
def wordsBehind (grammar : Tool.Grammar) (title : String) (arguments : List String) : Except String (List String) :=
  match Tool.readArguments grammar false arguments with
  | .error text => .error (misuseOf title text)
  | .ok a => if a.operands.isEmpty then .error (misuseOf title "missing operand") else .ok a.operands

/-- What is said about a program that cannot be run. -/
def unableTo (tool title name reason : String) : String :=
  title ++ ": " ++
    (if ["timeout", "nohup", "stdbuf"].contains tool then "failed to run command '" ++ name ++ "'"
      else if ["setsid", "flock", "ionice"].contains tool then "failed to execute " ++ name
      else "'" ++ name ++ "'") ++ ": " ++ reason ++ "\n"

/-- The file of a lock, and the words of the program that runs under it; none if there is only a lock. -/
def lockedWords (title : String) (arguments : List String) : Except String (String × List String) :=
  let grammar : Tool.Grammar := ⟨"sxeunoFv", "wE", "", [("shared", 's'), ("exclusive", 'x'), ("unlock", 'u'),
    ("nonblock", 'n'), ("nb", 'n'), ("timeout", 'w'), ("wait", 'w'), ("conflict-exit-code", 'E'), ("close", 'o'),
    ("no-fork", 'F'), ("verbose", 'v')]⟩
  match Tool.readArguments grammar false arguments with
  | .error text => .error (misuseOf title text)
  | .ok a =>
    match a.operands with
    | [] => .error (misuseOf title "not enough arguments")
    | [file] => .ok (file, [])
    | file :: "-c" :: rest | file :: "--command" :: rest => .ok (file, "sh" :: "-c" :: rest)
    | file :: words => .ok (file, words)

/-- Options with numbers for letters, as a program that runs another one less urgently takes them. -/
def withoutUrgency : List String → List String
  | s :: rest =>
    match s.toList with
    | '-' :: c :: r =>
      if c.isDigit || (c == '-' || c == '+') && r.head?.any Char.isDigit then withoutUrgency rest else s :: rest
    | _ => s :: rest
  | [] => []

/-- The words of a program that runs less urgently. -/
def urgentWords (title : String) (arguments : List String) : Except String (List String) := do
  let grammar : Tool.Grammar := ⟨"", "n", "", [("adjustment", 'n')]⟩
  match Tool.readArguments grammar false (withoutUrgency arguments) with
  | .error text => .error (misuseOf title text)
  | .ok a =>
    match a.value? 'n' with
    | some s =>
      if (integerOf? 10 s).isNone then throw (title ++ ": invalid adjustment '" ++ s ++ "'\n")
    | none => pure ()
    if a.operands.isEmpty then
      throw (misuseOf title "a command must be given with an adjustment")
    return a.operands

end Shell

end PlanReuse.Script
