import PlanReuse.Script.Regex.Reader
import PlanReuse.Script.Tool.Listing

/-!
# Searching folders

A search visits what is below some names. An expression is evaluated for each thing it finds: its tests
say what fits, its actions print, remove or run programs.
-/

namespace PlanReuse.Script.Tool

/-! ### Expressions -/

/-- A number that is to be met, exceeded or not reached. -/
structure Bound where
  order : Ordering
  count : Nat

def Bound.holds (b : Bound) (n : Nat) : Bool := Ord.compare n b.count == b.order

/-- How permissions are compared. -/
inductive ModeTest
  | exact
  | all
  | any

/-- An expression of a search. -/
inductive Criterion
  | constant (b : Bool)
  /-- The last name, or the whole path. -/
  | name (whole fold : Bool) (pattern : List Wild)
  | matching (fold : Bool) (r : Regex)
  /-- Where a link leads. -/
  | target (fold : Bool) (pattern : List Wild)
  | kind (followed : Bool) (letters : List Char)
  | size (b : Bound) (unit : Nat)
  /-- The age in units of some seconds; days count only when they are over. -/
  | age (b : Bound) (seconds : Nat)
  | newer (t : Moment)
  | mode (test : ModeTest) (bits : Nat)
  | links (b : Bound)
  | serial (b : Bound)
  | user (n : Nat)
  | group (n : Nat)
  | same (n : Node)
  | allows (bit : Nat)
  | empty
  | print (ending : String) (file : Option String)
  | format (text : List Char) (file : Option String)
  | list
  | delete
  | prune
  | quit
  /-- Runs a program for each thing, maybe in its folder, maybe only after a question. -/
  | run (within asks : Bool) (words : List String)
  /-- Runs a program for many things at once. -/
  | gather (number : Nat) (words : List String)
  | not (c : Criterion)
  | both (a b : Criterion)
  | either (a b : Criterion)
  | after (a b : Criterion)

/-- Whether an expression does something, so that nothing else needs to be printed. -/
def Criterion.acts : Criterion → Bool
  | .print _ _ | .format _ _ | .list | .delete | .quit | .run _ _ _ | .gather _ _ => true
  | .not c => c.acts
  | .both a b | .either a b | .after a b => a.acts || b.acts
  | _ => false

def Criterion.deletes : Criterion → Bool
  | .delete => true
  | .not c => c.deletes
  | .both a b | .either a b | .after a b => a.deletes || b.deletes
  | _ => false

/-- A search, and how deep it goes. -/
structure Search where
  least : Nat
  most : Nat
  /-- Whether what is inside a folder is visited before it. -/
  deepFirst : Bool
  follows : Bool
  extended : Option Bool
  /-- How many programs with many arguments there are. -/
  gathers : Nat

/-! ### Reading expressions -/

structure SearchReading where
  words : List String
  /-- The last word that has been read as a part of the expression. -/
  last : String
  search : Search

abbrev ReadingSearch := ExceptT String (StateM SearchReading)

def patternOfText (s : String) : List Wild := patternOf (s.toList.map fun c => (c, false))

def nextArgument (name : String) : ReadingSearch String := do
  match (← get).words with
  | [] => throw ("missing argument to \x60" ++ name ++ "'")
  | w :: rest =>
    modify fun r => { r with words := rest }
    return w

def boundOf? (s : String) : Option Bound :=
  let (order, body) := match s.toList with
    | '+' :: r => (Ordering.gt, r)
    | '-' :: r => (Ordering.lt, r)
    | r => (Ordering.eq, r)
  match scanDigits 10 0 body with
  | (n, _ + 1, []) => some ⟨order, n⟩
  | _ => none

def nextBound (name : String) : ReadingSearch Bound := do
  let s ← nextArgument name
  match boundOf? s with
  | some b => return b
  | none => throw ("invalid argument \x60" ++ s ++ "' to \x60" ++ name ++ "'")

/-- An expression in the notation where parentheses and bars take a backslash, in the extended one. -/
def turnedNotation : List Char → List Char
  | '\\' :: c :: r =>
    if "()\x7b\x7d|".contains c then c :: turnedNotation r else '\\' :: c :: turnedNotation r
  | c :: r => if "()\x7b\x7d|".contains c then '\\' :: c :: turnedNotation r else c :: turnedNotation r
  | [] => []

def regexOf (extended : Option Bool) (s : String) : Except Regex.Fault Regex :=
  match extended with
  | some e => Regex.read (if e then .modern else .basic) s
  | none => Regex.read .modern (String.ofList (turnedNotation s.toList))

/-- The notation of a name: the extended one or the basic one, or that of an editor. -/
def notationOf? (s : String) : Option Bool :=
  if ["posix-extended", "posix-egrep", "egrep", "awk", "posix-awk", "gnu-awk"].contains s then some true
  else if ["emacs", "findutils-default"].contains s then none
  else some false

/-- The words of a program up to its end, and whether it takes many arguments. -/
def programWords (name : String) : List String → List String → Except String (List String × Bool × List String)
  | _, [] => .error ("missing argument to \x60" ++ name ++ "'")
  | front, ";" :: rest => .ok (front.reverse, false, rest)
  | "\x7b\x7d" :: front, "+" :: rest => .ok (front.reverse, true, rest)
  | front, w :: rest => programWords name (w :: front) rest

/-- The size that a test of a search names. -/
def sizeTest (s : String) : Except String (Bound × Nat) :=
  match s.toList.getLast? with
  | none => .error "invalid null argument to -size"
  | some c =>
    let units : List (Char × Nat) :=
      [('c', 1), ('w', 2), ('b', 512), ('k', 1024), ('M', 1048576), ('G', 1073741824)]
    let found : Option (Bound × Nat) := match units.lookup c with
      | some u => (boundOf? (s.dropEnd 1).toString).map fun b => (b, u)
      | none => (boundOf? s).map fun b => (b, 512)
    if (units.lookup c).isNone ∧ !c.isDigit then .error ("invalid -size type \x60" ++ c.toString ++ "'")
    else
      match found with
      | some t => .ok t
      | none => .error ("Invalid argument \x60" ++ s ++ "' to -size")

/-- The time with which things are compared. -/
def referenceTime (w : Work) (byDate : Bool) (s : String) : ReadingSearch Moment :=
  if byDate then
    match DateText.read? (zoneOf w) w.disk.clock s with
    | some t => return t
    | none => throw ("I cannot figure out how to interpret " ++ quote s ++ " as a date or time")
  else
    match timeOfName w s with
    | .ok t => return t
    | .error fault => throw (ofFault (quote s) fault)

/-- What is said about a place to search behind a word of the expression. -/
def misplaced (w : Work) (word last : String) : String :=
  "paths must precede expression: \x60" ++ word ++ "'" ++
    if (w.disk.find w.folder word).toBool then
      "\n" ++ w.name ++ ": possible unquoted pattern after predicate \x60" ++ last ++ "'?"
    else ""

/-- Reads a test or an action. -/
def readPrimary (w : Work) (name : String) : ReadingSearch Criterion := do
  let pattern (whole fold : Bool) : ReadingSearch Criterion := do
    let p ← nextArgument name
    return .name whole fold (patternOfText (if fold then p.toLower else p))
  let option (change : Search → Search) : ReadingSearch Criterion := do
    modify fun r => { r with search := change r.search }
    return .constant true
  let program (within asks : Bool) : ReadingSearch Criterion := do
    match programWords name [] (← get).words with
    | .error text => throw text
    | .ok (words, many, rest) =>
      modify fun r => { r with words := rest }
      if many then
        let number := (← get).search.gathers
        modify fun r => { r with search.gathers := number + 1 }
        return .gather number words
      else return .run within asks words
  match name with
  | "-name" => pattern false false
  | "-iname" => pattern false true
  | "-path" | "-wholename" => pattern true false
  | "-ipath" | "-iwholename" => pattern true true
  | "-regex" | "-iregex" =>
    let s ← nextArgument name
    match regexOf (← get).search.extended s with
    | .ok r => return .matching (name == "-iregex") r
    | .error fault => throw ("failed to compile regular expression '" ++ s ++ "': " ++ fault.message)
  | "-regextype" =>
    let s ← nextArgument name
    option fun f => { f with extended := notationOf? s }
  | "-lname" => return .target false (patternOfText (← nextArgument name))
  | "-ilname" => return .target true (patternOfText (← nextArgument name).toLower)
  | "-type" | "-xtype" =>
    let s ← nextArgument name
    let letters := (cutAt ',' s.toList).flatten
    match letters.find? fun c => !("bcdflpsD".contains c) with
    | some c => throw ("Unknown argument to " ++ name ++ ": " ++ c.toString)
    | none => return .kind (name == "-xtype") letters
  | "-size" =>
    let s ← nextArgument name
    match sizeTest s with
    | .ok (b, u) => return .size b u
    | .error text => throw text
  | "-mtime" | "-atime" | "-ctime" => return .age (← nextBound name) 86400
  | "-mmin" | "-amin" | "-cmin" => return .age (← nextBound name) 60
  | "-newer" | "-anewer" | "-cnewer" => return .newer (← referenceTime w false (← nextArgument name))
  | "-perm" =>
    let s ← nextArgument name
    let (test, body) := match s.toList with
      | '-' :: r => (ModeTest.all, String.ofList r)
      | '/' :: r => (ModeTest.any, String.ofList r)
      | _ => (ModeTest.exact, s)
    match newMode? 0 false body 0 with
    | some bits => return .mode test bits
    | none => throw ("invalid mode " ++ quote s)
  | "-links" => return .links (← nextBound name)
  | "-inum" => return .serial (← nextBound name)
  | "-user" | "-uid" =>
    let s ← nextArgument name
    match numberOf? userNumbers s with
    | some n => return .user n
    | none => throw (quote s ++ " is not the name of a known user")
  | "-group" | "-gid" =>
    let s ← nextArgument name
    match numberOf? Disk.groups s with
    | some n => return .group n
    | none => throw (quote s ++ " is not the name of an existing group")
  | "-nouser" | "-nogroup" => return .constant false
  | "-samefile" =>
    let s ← nextArgument name
    match w.disk.findName w.folder s with
    | .ok (p, e) => return .same (Disk.node p e)
    | .error fault => throw (ofFault (quote s) fault)
  | "-readable" => return .allows 4
  | "-writable" => return .allows 2
  | "-executable" => return .allows 1
  | "-empty" => return .empty
  | "-true" => return .constant true
  | "-false" => return .constant false
  | "-print" => return .print "\n" none
  | "-print0" => return .print "\x00" none
  | "-fprint" => return .print "\n" (some (← nextArgument name))
  | "-fprint0" => return .print "\x00" (some (← nextArgument name))
  | "-printf" => return .format (← nextArgument name).toList none
  | "-fprintf" =>
    let file ← nextArgument name
    return .format (← nextArgument name).toList (some file)
  | "-ls" => return .list
  | "-delete" =>
    modify fun r => { r with search.deepFirst := true }
    return .delete
  | "-prune" => return .prune
  | "-quit" => return .quit
  | "-exec" => program false false
  | "-execdir" => program true false
  | "-ok" => program false true
  | "-okdir" => program true true
  | "-depth" | "-d" => option fun f => { f with deepFirst := true }
  | "-follow" => option fun f => { f with follows := true }
  | "-mount" | "-xdev" | "-noleaf" | "-warn" | "-nowarn" | "-daystart" | "-ignore_readdir_race"
  | "-noignore_readdir_race" => return .constant true
  | "-maxdepth" | "-mindepth" =>
    let s ← nextArgument name
    match scanDigits 10 0 s.toList with
    | (n, _ + 1, []) =>
      option fun f => if name = "-maxdepth" then { f with most := n } else { f with least := n }
    | _ =>
      throw ("Expected a positive decimal integer argument to " ++ name ++ ", but got " ++ quote s)
  | _ =>
    if name.startsWith "-newer" && name.length = 8 then
      return .newer (← referenceTime w (name.endsWith "t") (← nextArgument name))
    else if name.startsWith "-" then throw ("unknown predicate \x60" ++ name ++ "'")
    else throw (misplaced w name (← get).last)

/-- Takes a word of the expression; others follow it. -/
def takeWord (word : String) (rest : List String) : ReadingSearch Unit :=
  modify fun r => { r with words := rest, last := word }

mutual

/-- Expressions with commas between them; the last one counts. -/
def readList (w : Work) : Nat → String → ReadingSearch Criterion
  | 0, _ => throw "invalid expression"
  | fuel + 1, before => do
    let a ← readEither w fuel before
    match (← get).words with
    | "," :: rest =>
      takeWord "," rest
      return .after a (← readList w fuel ",")
    | _ => return a

def readEither (w : Work) : Nat → String → ReadingSearch Criterion
  | 0, _ => throw "invalid expression"
  | fuel + 1, before => do
    let a ← readBoth w fuel before
    match (← get).words with
    | "-o" :: rest | "-or" :: rest =>
      takeWord "-o" rest
      return .either a (← readEither w fuel "-o")
    | _ => return a

def readBoth (w : Work) : Nat → String → ReadingSearch Criterion
  | 0, _ => throw "invalid expression"
  | fuel + 1, before => do
    let a ← readSingle w fuel before
    match (← get).words with
    | [] => return a
    | "-a" :: rest | "-and" :: rest =>
      takeWord "-a" rest
      return .both a (← readBoth w fuel "-a")
    | word :: _ =>
      if ["-o", "-or", ",", ")"].contains word then return a else return .both a (← readBoth w fuel before)

/-- A test or an action behind a word, in parentheses or turned round. -/
def readSingle (w : Work) : Nat → String → ReadingSearch Criterion
  | 0, _ => throw "invalid expression"
  | fuel + 1, before => do
    match (← get).words with
    | [] => throw ("expected an expression after " ++ quote before)
    | "!" :: rest | "-not" :: rest =>
      takeWord "!" rest
      return .not (← readSingle w fuel "!")
    | "(" :: rest =>
      if rest.isEmpty then
        throw "invalid expression; expected to find a ')' but didn't see one. Perhaps you need an extra predicate after '('"
      if rest.head? = some ")" then throw "invalid expression; empty parentheses are not allowed."
      takeWord "(" rest
      let c ← readList w fuel "("
      match (← get).words with
      | ")" :: rest =>
        takeWord ")" rest
        return c
      | _ => throw "invalid expression; I was expecting to find a ')' somewhere but did not see one."
    | ")" :: _ =>
      if before = "" ∨ before = "(" then throw "invalid expression; you have too many ')'"
      else throw ("expected an expression between " ++ quote before ++ " and ')'")
    | word :: rest =>
      if word.startsWith "-" then takeWord word rest else modify fun r => { r with words := rest }
      if ["-o", "-or", "-a", "-and", ","].contains word then
        throw ("invalid expression; you have used a binary operator '" ++ word ++ "' with nothing before it.")
      readPrimary w word

end

/-! ### What is printed of a thing -/

/-- A thing that a search has found. -/
structure Finding where
  text : String
  start : String
  depth : Nat
  place : Path
  entry : Entry

/-- The time of a thing in a format of one letter. -/
def findingTime (w : Work) (t : Moment) (letter : Char) : String :=
  let of (format : String) : String := Moment.text (zoneOf w) format t
  let fraction := of "%N" ++ "0"
  match letter with
  | '@' => toString t.seconds ++ "." ++ fraction
  | '+' => of "%Y-%m-%d+%H:%M:%S." ++ fraction
  | 'S' => of "%S." ++ fraction
  | 'T' => of "%H:%M:%S." ++ fraction
  | 'X' => of "%H:%M:%S." ++ fraction
  | c => of (String.ofList ['%', c])

/-- What a letter of a format says of a thing. -/
def findingPart (w : Work) (f : Finding) (letter : Char) : String :=
  let d := w.disk
  match letter with
  | 'p' => f.text
  | 'f' => if f.text = "/" then "/" else lastName f.text
  | 'h' => if f.text.contains '/' then parentName f.text else "."
  | 'P' =>
    let rest := (f.text.drop f.start.length).toString
    if rest.startsWith "/" then (rest.drop 1).toString else rest
  | 'H' => f.start
  | 's' => toString (sizeAt d f.entry)
  | 'b' => toString (blocksAt d f.entry * 2)
  | 'k' => toString (blocksAt d f.entry)
  | 'd' => toString f.depth
  | 'm' => modeDigits 1 (d.modeOf f.place f.entry)
  | 'M' => modeText (kindLetter f.entry) (d.modeOf f.place f.entry)
  | 'y' => if kindLetter f.entry = '-' then "f" else (kindLetter f.entry).toString
  | 'Y' =>
    match d.find w.folder f.text with
    | .ok (_, e) => if kindLetter e = '-' then "f" else (kindLetter e).toString
    | .error _ => "N"
  | 'l' => match f.entry with
    | .link t => t
    | _ => ""
  | 'i' => toString (serial d f.place f.entry)
  | 'n' => toString (linksOf d f.place f.entry)
  | 'u' => Disk.userName (d.ownerOf (Disk.node f.place f.entry)).1
  | 'g' => Disk.groupName (d.ownerOf (Disk.node f.place f.entry)).2
  | 'U' => toString (d.ownerOf (Disk.node f.place f.entry)).1
  | 'G' => toString (d.ownerOf (Disk.node f.place f.entry)).2
  | 't' | 'a' | 'c' =>
    let t := d.timeOf (Disk.node f.place f.entry)
    Moment.text (zoneOf w) "%a %b %e %H:%M:%S." t ++ Moment.text (zoneOf w) "%N0 %Y" t
  | 'F' => "ext4"
  | 'D' => "2049"
  | _ => ""

/-- A format with what it says of a thing. -/
def fillFinding (w : Work) (f : Finding) : Nat → List Char → String
  | 0, _ => ""
  | _ + 1, [] => ""
  | fuel + 1, '%' :: '%' :: r => "%" ++ fillFinding w f fuel r
  | fuel + 1, '%' :: r =>
    let flags := r.takeWhile fun c => "-+ #0".contains c
    let (width, _, r') := scanDigits 10 0 (r.drop flags.length)
    let (precision, r') := match r' with
      | '.' :: q =>
        let (n, _, q) := scanDigits 10 0 q
        (some n, q)
      | q => (none, q)
    let padded (text : String) : String :=
      let text := match precision with
        | some n => String.ofList (text.toList.take n)
        | none => text
      if flags.contains '-' then padRight width text
      else if flags.contains '0' && text.toList.all Char.isDigit then
        String.ofList (List.replicate (width - text.length) '0') ++ text
      else padLeft width text
    match r' with
    | [] => "%"
    | 'T' :: c :: rest | 'A' :: c :: rest | 'C' :: c :: rest | 'B' :: c :: rest =>
      padded (findingTime w (w.disk.timeOf (Disk.node f.place f.entry)) c) ++ fillFinding w f fuel rest
    | c :: rest =>
      if "pfhPHsbkdmMyYlinugUGtacFD".contains c then padded (findingPart w f c) ++ fillFinding w f fuel rest
      else "%" ++ c.toString ++ fillFinding w f fuel rest
  | fuel + 1, '\\' :: 'c' :: _ => if fuel = 0 then "" else ""
  | fuel + 1, '\\' :: r =>
    match r with
    | c :: rest =>
      if isOctal c then
        let digits := (r.take 3).takeWhile isOctal
        (octalChar digits).toString ++ fillFinding w f fuel (r.drop digits.length)
      else
        match escapeLetters.lookup c with
        | some d => d.toString ++ fillFinding w f fuel rest
        | none => "\\" ++ c.toString ++ fillFinding w f fuel rest
    | [] => "\\"
  | fuel + 1, c :: r => c.toString ++ fillFinding w f fuel r

/-- The line of a listing for a thing. -/
def findingLine (w : Work) (f : Finding) : String :=
  let d := w.disk
  let part (c : Char) : String := findingPart w f c
  let time := listedTime ⟨[], []⟩ w (d.timeOf (Disk.node f.place f.entry))
  padLeft 9 (part 'i') ++ " " ++ padLeft 6 (part 'k') ++ " " ++ part 'M' ++ " " ++ padLeft 3 (part 'n') ++ " " ++
    padRight 8 (part 'u') ++ " " ++ padRight 8 (part 'g') ++ " " ++ padLeft 8 (part 's') ++ " " ++ time ++ " " ++
    f.text ++ (match f.entry with | .link t => " -> " ++ t | _ => "")

/-! ### Visiting -/

/-- A search on its way. -/
structure Visiting where
  /-- Whether what is inside the thing at hand is left out. -/
  pruned : Bool
  ended : Bool
  /-- Things for programs that take many. -/
  gathered : List (Nat × List String)
  /-- What is written to files. -/
  written : List (String × String)

abbrev Visit := StateT Visiting Tool

/-- Runs a program; one that is not there is an error of its own. -/
def launched (launch : Launcher) (words : List String) : Tool Bool := do
  match ← launch words with
  | .missing =>
    say (quote (words.headD "") ++ ": No such file or directory")
    return false
  | .denied =>
    say (quote (words.headD "") ++ ": Permission denied")
    return false
  | .ended e => return e = .exited 0

/-- Writes to the output, or keeps what is for a file. -/
def putOrKeep (file : Option String) (text : String) : Visit Unit :=
  match file with
  | none => (put text : Tool Unit)
  | some f => modify fun v => { v with written := v.written ++ [(f, text)] }

/-- Evaluates an expression for a thing. -/
def evaluate (launch : Launcher) (f : Finding) : Criterion → Visit Bool
  | .constant b => return b
  | .name whole fold pattern => do
    let s := if whole then f.text else if f.text = "/" then "/" else lastName f.text
    return fits pattern (if fold then s.toLower else s).toList
  | .matching fold r => return Regex.isAll fold r f.text.toList
  | .target fold pattern =>
    match f.entry with
    | .link t => return fits pattern (if fold then t.toLower else t).toList
    | _ => return false
  | .kind followed letters => do
    let w ← (get : Tool Work)
    let e := if followed then
        match w.disk.find f.place.dropLast (f.place.getLastD "/") with
        | .ok (_, e) => e
        | .error _ => f.entry
      else f.entry
    let letter := if kindLetter e = '-' then 'f' else kindLetter e
    return letters.contains letter
  | .size b unit => do
    let w ← (get : Tool Work)
    return b.holds ((sizeAt w.disk f.entry + unit - 1) / unit)
  | .age b seconds => do
    let w ← (get : Tool Work)
    let age := w.disk.clock - w.disk.timeOf (Disk.node f.place f.entry)
    let unit := Moment.ofSeconds seconds
    let limit := unit * b.count
    return match b.order, seconds == 60 with
      | .lt, _ => decide (age < limit)
      | .gt, true => decide (limit < age)
      | .gt, false => decide (limit + unit ≤ age)
      | .eq, true => decide (limit - unit ≤ age ∧ age < limit)
      | .eq, false => decide (limit ≤ age ∧ age < limit + unit)
  | .newer t => do
    let w ← (get : Tool Work)
    return decide (t < w.disk.timeOf (Disk.node f.place f.entry))
  | .mode test bits => do
    let w ← (get : Tool Work)
    let mode := w.disk.modeOf f.place f.entry
    return match test with
      | .exact => mode == bits
      | .all => mode &&& bits == bits
      | .any => bits == 0 || mode &&& bits != 0
  | .links b => do
    let w ← (get : Tool Work)
    return b.holds (linksOf w.disk f.place f.entry)
  | .serial b => do
    let w ← (get : Tool Work)
    return b.holds (serial w.disk f.place f.entry)
  | .user n => do
    let w ← (get : Tool Work)
    return (w.disk.ownerOf (Disk.node f.place f.entry)).1 == n
  | .group n => do
    let w ← (get : Tool Work)
    return (w.disk.ownerOf (Disk.node f.place f.entry)).2 == n
  | .same n => return Disk.node f.place f.entry == n
  | .allows bit => do
    let w ← (get : Tool Work)
    match w.disk.find f.place.dropLast (f.place.getLastD "/") with
    | .ok (p, e) => return bit ≠ 1 || w.disk.modeOf p e &&& 0o111 ≠ 0
    | .error _ => return false
  | .empty => do
    let w ← (get : Tool Work)
    return match f.entry with
      | .folder => (w.disk.names f.place).isEmpty
      | .file _ => sizeAt w.disk f.entry == 0
      | _ => false
  | .print ending file => do
    putOrKeep file (f.text ++ ending)
    return true
  | .format text file => do
    let w ← (get : Tool Work)
    putOrKeep file (fillFinding w f (text.length + 1) text)
    return true
  | .list => do
    let w ← (get : Tool Work)
    (putLine (findingLine w f) : Tool Unit)
    return true
  | .delete => do
    let w ← (get : Tool Work)
    if f.entry = .folder ∧ w.disk.names f.place ≠ [] then
      (complain ("cannot delete " ++ quote f.text ++ ": Directory not empty") : Tool Unit)
      return false
    (set { w with disk := w.disk.dropEntry f.place } : Tool Unit)
    return true
  | .prune => do
    modify fun v => { v with pruned := true }
    return true
  | .quit => do
    modify fun v => { v with ended := true }
    return true
  | .run within asks words => do
    let w ← (get : Tool Work)
    let name := if within then "./" ++ lastName f.text else f.text
    let words := words.map fun s => s.replace "\x7b\x7d" name
    let proceed ← if asks then do
        (note ("< " ++ words.headD "" ++ " ... " ++ f.text ++ " > ? ") : Tool Unit)
        let answer ← (takeLine : Tool String)
        pure (answer.startsWith "y" || answer.startsWith "Y")
      else pure true
    if !proceed then return false
    let folder := w.folder
    if within then (modify fun w => { w with folder := f.place.dropLast } : Tool Unit)
    let done ← (launched launch words : Tool Bool)
    (modify fun w => { w with folder } : Tool Unit)
    return done
  | .gather number words => do
    modify fun v =>
      let old := (v.gathered.lookup number).getD words.dropLast
      { v with gathered := (number, old ++ [f.text]) :: v.gathered.filter (·.1 ≠ number) }
    return true
  | .not c => do return !(← evaluate launch f c)
  | .both a b => do
    if ← evaluate launch f a then
      if (← getThe Visiting).ended then return true
      evaluate launch f b
    else return false
  | .either a b => do
    if ← evaluate launch f a then return true
    if (← getThe Visiting).ended then return false
    evaluate launch f b
  | .after a b => do
    let _ ← evaluate launch f a
    if (← getThe Visiting).ended then return false
    evaluate launch f b

/-- Visits a thing and what is below it. -/
def visit (launch : Launcher) (s : Search) (c : Criterion) (start : String) :
    Nat → Nat → String → Path → Visit Unit
  | 0, _, _, _ => return ()
  | fuel + 1, depth, text, p => do
    if (← getThe Visiting).ended then return ()
    let d := (← (get : Tool Work)).disk
    match d.entryAt? p with
    | none => return ()
    | some e =>
      let (p, e) := match s.follows, e with
        | true, .link t => ((d.find p.dropLast t).toOption).getD (p, e)
        | _, _ => (p, e)
      let here : Visit Unit := do
        if s.least ≤ depth then
          let _ ← evaluate launch ⟨text, start, depth, p, e⟩ c
      let below : Visit Unit := do
        if e = .folder ∧ depth < s.most then
          for n in (← (get : Tool Work)).disk.names p do
            visit launch s c start fuel (depth + 1) (inside text n) (p ++ [n])
      if s.deepFirst then
        below
        if !(← getThe Visiting).ended then here
      else
        modify fun v => { v with pruned := false }
        here
        let v ← getThe Visiting
        modify fun v => { v with pruned := false }
        if !v.pruned && !v.ended then below

/-- Runs the programs that take many things, and writes what is for files. -/
def finishVisit (launch : Launcher) (v : Visiting) : Tool Unit := do
  for (_, words) in v.gathered.reverse do
    if !(← launched launch words) then setStatus 1
  for f in (v.written.map Prod.fst).eraseDups do
    let text := String.join ((v.written.filter (·.1 == f)).map Prod.snd)
    if f = "/dev/stdout" then put text
    else
      let _ ← change (quote f) fun w => w.disk.writeFile w.folder f text (masked w 0o666)

/-- Searches folders. -/
def find (launch : Launcher) (arguments : List String) : Tool Unit := do
  let options := arguments.takeWhile fun s =>
    s == "-L" || s == "-P" || s == "-H" || s.startsWith "-O" || s == "-D"
  let arguments := arguments.drop options.length
  let isExpression (s : String) : Bool :=
    (s.startsWith "-" && 1 < s.length) || s == "!" || s == "("
  let starts := arguments.takeWhile fun s => !isExpression s
  let words := arguments.drop starts.length
  let w ← get
  let follows := options.contains "-L"
  let reading : ReadingSearch Criterion := do
    if words.isEmpty then return .print "\n" none
    let c ← readList w (16 * words.length + 32) ""
    match (← get).words with
    | [] => return c
    | ")" :: _ => throw "invalid expression; you have too many ')'"
    | word :: _ => throw (misplaced w word (← get).last)
  match reading.run ⟨words, "", ⟨0, 100000, false, follows, none, 0⟩⟩ with
  | (.error text, _) => complain text
  | (.ok c, r) =>
    let c := if c.acts then c else .both c (.print "\n" none)
    let visits : Visit Unit :=
      (if starts.isEmpty then ["."] else starts).forM fun start => do
        if (← getThe Visiting).ended then return ()
        let w ← (get : Tool Work)
        match if options.contains "-H" || r.search.follows then w.disk.find w.folder start
            else w.disk.findName w.folder start with
        | .error fault => (complain (ofFault (quote start) fault) : Tool Unit)
        | .ok (p, _) => visit launch r.search c start (w.disk.entries.length + 2) 0 start p
    let ((), v) ← visits.run ⟨false, false, [], []⟩
    finishVisit launch v

end PlanReuse.Script.Tool
