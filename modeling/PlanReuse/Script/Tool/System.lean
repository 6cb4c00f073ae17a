import PlanReuse.Script.Format
import PlanReuse.Script.Tool.Permissions

/-!
# The system

Tools that say what the system and its users are like, print texts and read options for scripts.
-/

namespace PlanReuse.Script.Tool

/-- Prints words; the options in front say whether escapes count and whether a line feed follows. -/
def echo (arguments : List String) : Tool Unit := do
  let isOption (s : String) : Bool :=
    match s.toList with
    | '-' :: c :: r => (c :: r).all fun c => c == 'n' || c == 'e' || c == 'E'
    | _ => false
  let letters := ((arguments.takeWhile isOption).map fun s => s.toList.drop 1).flatten
  let text := (" ".intercalate (arguments.dropWhile isOption)).toList
  let escapes := (letters.filter (· ≠ 'n')).getLast? == some 'e'
  let (text, isCut) := if escapes then unescape text else (text, false)
  put (String.ofList text)
  if !letters.contains 'n' ∧ !isCut then put "\n"

/-- What the system is, by the letters that ask for it. -/
def systemParts : List (Char × String) :=
  [('s', "Linux"), ('n', "localhost"), ('r', "6.1.0"), ('v', "#1 SMP"), ('m', "x86_64"), ('p', "unknown"),
    ('i', "unknown"), ('o', "GNU/Linux")]

def uname : Arguments → Tool Unit := fun a =>
  match a.operands with
  | s :: _ => misuse ("extra operand " ++ quote s)
  | [] =>
    let shown := systemParts.filter fun (c, x) => a.has c || (a.has 'a' && x ≠ "unknown")
    putLine (" ".intercalate ((if a.options.isEmpty then systemParts.take 1 else shown).map Prod.snd))

/-- The number of processors, of which one is left at least. -/
def nproc : Arguments → Tool Unit := fun a =>
  match a.operands, (a.values 'ι').find? fun s => (countOf? s).isNone with
  | _, some s => complain ("invalid number: " ++ quote s)
  | s :: _, none => misuse ("extra operand " ++ quote s)
  | [], none => putLine "1"

/-! ### Users -/

def whoami : Arguments → Tool Unit := fun a =>
  match a.operands with
  | s :: _ => misuse ("extra operand " ++ quote s)
  | [] => putLine "root"

/-- A user by a name or a number. -/
def userOf? (s : String) : Option Disk.User :=
  Disk.users.find? fun u => u.name = s || some u.number = countOf? s

def id : Arguments → Tool Unit := fun a => do
  let unknown (s : String) : Tool Unit := complain (quote s ++ ": no such user")
  let one (u : Disk.User) : Tool Unit := do
    let ending := if a.has 'z' then "\x00" else "\n"
    let names := a.has 'n'
    match a.lastOf "ugG" with
    | some 'u' => put ((if names then u.name else toString u.number) ++ ending)
    | some _ => put ((if names then Disk.groupName u.group else toString u.group) ++ ending)
    | none =>
      if names || a.has 'r' then complain "cannot print only names or real IDs in default format"
      else
        let group := toString u.group ++ "(" ++ Disk.groupName u.group ++ ")"
        putLine ("uid=" ++ toString u.number ++ "(" ++ u.name ++ ") gid=" ++ group ++ " groups=" ++ group)
  if 1 < ("ugG".toList.filter a.has).length then complain "cannot print \"only\" of more than one choice"
  else
    let names := if a.operands.isEmpty then ["root"] else a.operands
    names.forM fun s =>
      match userOf? s with
      | some u => one u
      | none => unknown s

def groupsTool : Arguments → Tool Unit := fun a => do
  if a.operands.isEmpty then putLine "root"
  a.operands.forM fun s =>
    match userOf? s with
    | some u => putLine (s ++ " : " ++ Disk.groupName u.group)
    | none => complain (quote s ++ ": no such user")

/-- Rows of the tables of users and groups. -/
def getent (arguments : List String) : Tool Unit := do
  match arguments with
  | ["passwd"] => put (String.join (Disk.users.map Disk.User.row))
  | "passwd" :: names =>
    names.forM fun s =>
      match userOf? s with
      | some u => put u.row
      | none => setStatus 2
  | "group" :: names =>
    names.forM fun s =>
      match Disk.groups.find? fun g => g.1 = s || some g.2 = countOf? s with
      | some (name, n) => putLine (name ++ ":x:" ++ toString n ++ ":")
      | none => setStatus 2
  | _ => setStatus 2

/-! ### The environment -/

/-- The variables of the environment. -/
def printenv : Arguments → Tool Unit := fun a => do
  let bindings := (← get).environment
  let ending := if a.has '0' then "\x00" else "\n"
  if a.operands.isEmpty then bindings.forM fun (n, x) => put (n ++ "=" ++ x ++ ending)
  a.operands.forM fun n =>
    match bindings.lookup n with
    | some x => put (x ++ ending)
    | none => setStatus 1

/-- Numbers that are known of the system. -/
def systemNumbers : List (String × String) :=
  [("ARG_MAX", "2097152"), ("CHAR_BIT", "8"), ("CHAR_MAX", "127"), ("CHAR_MIN", "0"), ("INT_MAX", "2147483647"),
    ("INT_MIN", "-2147483648"), ("LONG_BIT", "64"), ("LONG_MAX", "9223372036854775807"), ("UINT_MAX", "4294967295"),
    ("SHRT_MAX", "32767"), ("SCHAR_MAX", "127"), ("UCHAR_MAX", "255"), ("USHRT_MAX", "65535"), ("WORD_BIT", "32"),
    ("PAGESIZE", "4096"), ("PAGE_SIZE", "4096"), ("CLK_TCK", "100"), ("LINE_MAX", "2048"), ("RE_DUP_MAX", "32767"),
    ("NGROUPS_MAX", "65536"), ("IOV_MAX", "1024"), ("LOGIN_NAME_MAX", "256"), ("HOST_NAME_MAX", "64"),
    ("TTY_NAME_MAX", "32"), ("SYMLOOP_MAX", "undefined"), ("NAME_MAX", "255"), ("PATH_MAX", "4096"),
    ("PIPE_BUF", "4096"), ("LINK_MAX", "127"), ("PATH", "/bin:/usr/bin"), ("_NPROCESSORS_ONLN", "1"),
    ("_NPROCESSORS_CONF", "1"), ("_POSIX_VERSION", "200809"), ("_POSIX2_VERSION", "200809")]

def getconf (arguments : List String) : Tool Unit :=
  match arguments with
  | name :: _ =>
    match systemNumbers.lookup name with
    | some text => putLine text
    | none => do
      note ("getconf: Unrecognized variable \x60" ++ name ++ "'\n")
      setStatus 2
  | [] => setStatus 2

/-! ### Options of scripts -/

/-- An option of a script: its name, and whether it has a value, or may have one. -/
structure ScriptOption where
  name : String
  takes : Bool
  mayLack : Bool

/-- The options that letters with colons describe. -/
def letterOptions : List Char → List ScriptOption
  | c :: ':' :: ':' :: r => ⟨c.toString, true, true⟩ :: letterOptions r
  | c :: ':' :: r => ⟨c.toString, true, false⟩ :: letterOptions r
  | c :: r => ⟨c.toString, false, false⟩ :: letterOptions r
  | [] => []

/-- The options that names with colons describe. -/
def nameOptions (text : String) : List ScriptOption :=
  ((text.toList.splitBy fun c d => (c == ',' || isSpace c) == (d == ',' || isSpace d)).filter fun w =>
    !w.any fun c => c == ',' || isSpace c).map fun w =>
      let name := String.ofList (w.takeWhile (· ≠ ':'))
      let colons := w.length - name.length
      ⟨name, colons ≠ 0, 2 ≤ colons⟩

/-- Arguments put in order: options with their values, operands and errors. -/
structure Ordered where
  options : List String
  operands : List String
  faults : List String

/-- How a word is written so that a shell reads it as one. -/
def shellWord (quotes : Bool) (s : String) : String :=
  if !quotes then s
  else "'" ++ String.join (s.toList.map fun c => if c = '\'' then "'\\''" else c.toString) ++ "'"

section Ordering

variable (quotes : Bool) (letters names : List ScriptOption)

/-- The options in a word of letters, and what is left of the arguments. -/
def orderLetters : List Char → List String → Ordered × List String
  | [], rest => (⟨[], [], []⟩, rest)
  | c :: r, rest =>
    match letters.find? fun o => o.name = c.toString with
    | none =>
      let (o, rest) := orderLetters r rest
      ({ o with faults := ("invalid option -- " ++ quote c.toString) :: o.faults }, rest)
    | some o =>
      let option := "-" ++ c.toString
      if !o.takes then
        let (more, rest) := orderLetters r rest
        ({ more with options := option :: more.options }, rest)
      else if !r.isEmpty ∨ o.mayLack then
        (⟨[option, shellWord quotes (String.ofList r)], [], []⟩, rest)
      else
        match rest with
        | v :: rest => (⟨[option, shellWord quotes v], [], []⟩, rest)
        | [] => (⟨[], [], ["option requires an argument -- " ++ quote c.toString]⟩, [])

/-- The option in a word with two minuses. -/
def orderName (text : String) (rest : List String) : Ordered × List String :=
  let name := String.ofList (text.toList.takeWhile (· ≠ '='))
  let value := if text.contains '=' then some (String.ofList (text.toList.drop (name.length + 1))) else none
  let near := names.filter fun o => o.name.startsWith name
  let fault (about : String) (rest : List String) : Ordered × List String := (⟨[], [], [about]⟩, rest)
  match (names.find? fun o => o.name = name).toList ++ near with
  | [] => fault ("unrecognized option " ++ quote ("--" ++ text)) rest
  | o :: _ =>
    if o.name ≠ name ∧ 1 < near.length then
      fault ("option " ++ quote ("--" ++ text) ++ " is ambiguous; possibilities: " ++
        " ".intercalate (near.map fun n => quote ("--" ++ n.name))) rest
    else
      let option := "--" ++ o.name
      match o.takes, value with
      | false, some _ => fault ("option " ++ quote option ++ " doesn't allow an argument") rest
      | false, none => (⟨[option], [], []⟩, rest)
      | true, some v => (⟨[option, shellWord quotes v], [], []⟩, rest)
      | true, none =>
        if o.mayLack then (⟨[option, shellWord quotes ""], [], []⟩, rest)
        else
          match rest with
          | v :: rest => (⟨[option, shellWord quotes v], [], []⟩, rest)
          | [] => fault ("option " ++ quote option ++ " requires an argument") []

/-- Puts arguments in order; with `strict` the first operand ends the options. -/
def orderArguments (strict : Bool) : Nat → List String → Ordered
  | 0, rest => ⟨[], rest, []⟩
  | _, [] => ⟨[], [], []⟩
  | fuel + 1, s :: rest =>
    let add (o : Ordered × List String) : Ordered :=
      let more := orderArguments strict fuel o.2
      ⟨o.1.options ++ more.options, more.operands, o.1.faults ++ more.faults⟩
    match s.toList with
    | ['-', '-'] => ⟨[], rest, []⟩
    | '-' :: '-' :: r => add (orderName quotes names (String.ofList r) rest)
    | '-' :: c :: r => add (orderLetters quotes letters (c :: r) rest)
    | _ =>
      if strict then ⟨[], s :: rest, []⟩
      else
        let more := orderArguments strict fuel rest
        { more with operands := s :: more.operands }

end Ordering

/-- Reads the options of a script and prints them in order. Without options of its own, the first argument
holds the letters, and nothing is quoted. -/
def getopt (arguments : List String) : Tool Unit := do
  let finish (name : String) (quiet silent quotes : Bool) (letters names : List ScriptOption) (strict : Bool)
      (words : List String) : Tool Unit := do
    let o := orderArguments quotes letters names strict (words.length + 1) words
    if !quiet then
      o.faults.forM fun f => note (name ++ ": " ++ f ++ "\n")
    if !silent then
      let operands := o.operands.map (shellWord quotes)
      putLine (String.join ((o.options ++ "--" :: operands).map (" " ++ ·)))
    if !o.faults.isEmpty then setStatus 1
  let rest (letters : String) : List ScriptOption :=
    letterOptions (letters.toList.dropWhile fun c => c == '+' || c == '-')
  match arguments with
  | [] =>
    say "missing optstring argument"
    setStatus 2
  | s :: words =>
    if !s.startsWith "-" then
      let words := if words.head? = some "--" then words.tail else words
      finish "getopt" false false false (rest s) [] (s.startsWith "+") words
    else
      let own : Grammar := ⟨"aqQTu", "olns", "", [("options", 'o'), ("longoptions", 'l'), ("name", 'n'),
        ("quiet", 'q'), ("quiet-output", 'Q'), ("shell", 's'), ("test", 'T'), ("unquoted", 'u'), ("alternative", 'a')]⟩
      match readArguments own false arguments with
      | .error text =>
        say text
        setStatus 2
      | .ok a =>
        if a.has 'T' then setStatus 4
        else
          let (letters, words) := match a.value? 'o', a.operands with
            | some l, words => (some l, words)
            | none, l :: words => (some l, words)
            | none, [] => (none, [])
          match letters with
          | none =>
            say "missing optstring argument"
            setStatus 2
          | some l =>
            finish ((a.value? 'n').getD "getopt") (a.has 'q') (a.has 'Q') (!a.has 'u') (rest l)
              ((a.values 'l').flatMap nameOptions) (l.startsWith "+") words

end PlanReuse.Script.Tool
