import PlanReuse.Script.Arithmetic
import PlanReuse.Script.Pattern
import PlanReuse.Script.State

/-!
# Expansion

What words stand for: parameters, outputs of commands and values of expressions are put into them, then
they are split into fields, and fields that are patterns become the names of the files that fit.
-/

namespace PlanReuse.Script

/-! ### Marked texts -/

/-- A part of a word in the making. -/
inductive Mark
  /-- A character; one that `splits` was put in and may separate fields. -/
  | char (c : Char) (quoted splits : Bool)
  /-- Here is a field, even if it is empty. -/
  | present
  /-- A field ends here. -/
  | stop
deriving DecidableEq

/-- A text that is put into a word. -/
def marksOf (quoted : Bool) (text : String) : List Mark :=
  text.toList.map fun c => .char c quoted !quoted

/-- The text of a word that is not split; where a field would end is a blank. -/
def textOf (ms : List Mark) : String :=
  String.ofList (ms.filterMap fun
    | .char c _ _ => some c
    | .stop => some ' '
    | .present => none)

/-- The characters of a pattern. -/
def markedOf (ms : List Mark) : List Marked :=
  ms.filterMap fun
    | .char c quoted _ => some (c, quoted)
    | .stop => some (' ', true)
    | .present => none

/-- Fields in the making. -/
structure Splitting where
  /-- The fields before, the latest first. -/
  before : List (List Marked)
  /-- The field at hand, the latest character first. -/
  current : Option (List Marked)
  /-- Whether a field has just been ended by a blank. -/
  afterBlank : Bool

namespace Splitting

def endField (s : Splitting) (afterBlank : Bool) : Splitting :=
  match s.current with
  | some cs => ⟨cs.reverse :: s.before, none, afterBlank⟩
  | none => { s with current := none }

def add (s : Splitting) (c : Char) (quoted : Bool) : Splitting :=
  ⟨s.before, some ((c, quoted) :: s.current.getD []), false⟩

/-- Takes a mark. Blanks among the separators end a field; another separator ends one too, which may be
empty, and takes the blanks around it. -/
def step (separators : List Char) (s : Splitting) : Mark → Splitting
  | .present => { s with current := some (s.current.getD []) }
  | .stop => s.endField false
  | .char c quoted splits =>
    if splits && separators.contains c then
      if c = ' ' ∨ c = '\t' ∨ c = '\n' then s.endField true
      else if s.current.isSome then s.endField false
      else if s.afterBlank then { s with afterBlank := false }
      else { s with before := [] :: s.before }
    else s.add c quoted

end Splitting

/-- The fields of a word. -/
def fieldsOf (separators : List Char) (ms : List Mark) : List (List Marked) :=
  ((ms.foldl (Splitting.step separators) ⟨[], none, false⟩).endField false).before.reverse

theorem fieldsOf_nil (separators : List Char) : fieldsOf separators [] = [] := rfl

/-! ### Names of files -/

/-- The names that fit a part of a path, put behind texts that lead to folders. A name with a dot in front
has to be asked for. -/
def extendNames (d : Disk) (folder : Path) (isLast : Bool) (starts : List String) (part : List Marked) :
    List String :=
  let name := String.ofList (part.map Prod.fst)
  if isPattern part then
    let pattern := patternOf part
    let dotted := part.head?.any fun m => m.1 == '.'
    starts.flatMap fun start =>
      match d.find folder (if start.isEmpty then "." else start) with
      | .ok (p, .folder) =>
        let names := [".", ".."] ++ d.names p
        let names := names.filter fun n =>
          fits pattern n.toList && (dotted || !n.startsWith ".") &&
            (isLast || d.isFolder p n)
        names.map fun n => start ++ n
      | _ => []
  else (starts.map (· ++ name)).filter fun n => !isLast || (d.findName folder n).toBool || name.isEmpty

/-- A marked text cut at its slashes. -/
def cutMarked : List Marked → List (List Marked)
  | [] => [[]]
  | m :: r =>
    match cutMarked r with
    | [] => [[m]]
    | p :: ps => if m.1 = '/' then [] :: p :: ps else (m :: p) :: ps

/-- The names that fit the parts of a path. -/
def namesFrom (d : Disk) (folder : Path) : List String → List (List Marked) → List String
  | starts, [] => starts
  | starts, [part] => extendNames d folder true starts part
  | starts, part :: parts =>
    namesFrom d folder ((extendNames d folder false starts part).map (· ++ "/")) parts

/-- What a field stands for: the files that fit it, in order, or itself. -/
def namesOf (d : Disk) (folder : Path) (f : List Marked) : List String :=
  let plain := String.ofList (f.map Prod.fst)
  if isPattern f then
    match (namesFrom d folder [""] (cutMarked f)).mergeSort fun a b => decide (a ≤ b) with
    | [] => [plain]
    | names => names
  else [plain]

/-! ### Homes -/

/-- The home of a user, for the names that are known. -/
def home? (sh : Shell) (user : String) : Option String :=
  match user with
  | "" => sh.value? "HOME"
  | "root" => some "/root"
  | _ => none

/-- A word with a tilde in front replaced by a home. -/
def withHome (sh : Shell) (w : Word) : Word :=
  let isName : Piece → Bool
    | .char c false => c != '/' && c != ':'
    | _ => false
  let isEnd : Option Piece → Bool
    | none => true
    | some (.char c false) => c == '/' || c == ':'
    | _ => false
  match w with
  | .char '~' false :: r =>
    let rest := r.dropWhile isName
    match if isEnd rest.head? then home? sh (Word.unquoted (r.takeWhile isName)) else none with
    | some h => .quotes :: h.toList.map (.char · true) ++ rest
    | none => w
  | _ => w

/-- The same at the start of a value and after each colon in it. -/
def withHomes (sh : Shell) (w : Word) : Word :=
  let rec after : Word → Word
    | [] => []
    | .char ':' false :: r => .char ':' false :: withHome sh (after r)
    | p :: r => p :: after r
  withHome sh (after w)

/-- The same for what an expansion puts in. -/
def withHomeMarks (sh : Shell) (ms : List Mark) : List Mark :=
  match ms with
  | .char '~' false _ :: r =>
    let ends : Bool := match r.head? with
      | none | some (.char '/' false _) => true
      | _ => false
    match if ends then home? sh "" else none with
    | some h => marksOf true h ++ r
    | none => ms
  | _ => ms

/-! ### Pieces -/

abbrev Expanding := StateM Shell

/-- What the parameters of the script stand for, all together. -/
def allParameters (sh : Shell) (name : String) (fields quoted : Bool) : List Mark :=
  let separator : List Mark :=
    if !fields ∨ (name = "*" ∧ quoted) then
      match sh.value? "IFS" with
      | none => [.char ' ' quoted !quoted]
      | some s => marksOf quoted (String.ofList (s.toList.take 1))
    else [.stop]
  let present : List Mark := if quoted ∧ name = "@" then [.present] else []
  let rec join : List String → List Mark
    | [] => []
    | [x] => present ++ marksOf quoted x
    | x :: xs => present ++ marksOf quoted x ++ separator ++ join xs
  join sh.parameters

/-- What a parameter stands for, if it is set. -/
def parameterMarks? (sh : Shell) (name : String) (fields quoted : Bool) : Option (List Mark) :=
  if name = "@" ∨ name = "*" then
    if sh.parameters.isEmpty then none else some (allParameters sh name fields quoted)
  else (sh.parameter? name).map (marksOf quoted)

/-- Gives a variable a value, unless it may not change. -/
def assignOrFail (name value : String) : Expanding Unit :=
  modify fun sh => if sh.isFixed name then sh.fail (name ++ ": is read only") else sh.assign name value

section Pieces

/- How the output of a command is taken by a part of the process. -/
variable (output : Shell → Command → String × Shell)

/-- The value of an expression. -/
def sumOf (expression : String) : Expanding String := do
  let sh ← get
  match calculate sh.value? sh.isFixed expression with
  | .error fault =>
    set (sh.fail (fault.message expression))
    return ""
  | .ok (n, changes) =>
    set (changes.foldl (fun sh (x, v) => sh.assign x v) sh)
    return decimal n

mutual

/-- Puts everything into a word. With `fields` the word will be split; with `inner` it stands inside
another expansion, so that its own characters separate fields too. -/
def expandWord (fields inner : Bool) : List Piece → Expanding (List Mark)
  | [] => return []
  | p :: ps => do
    let ms ← expandPiece fields inner p
    if !(← get).isGoing then return []
    return ms ++ (← expandWord fields inner ps)

def expandPiece (fields inner : Bool) : Piece → Expanding (List Mark)
  | .char c quoted => return [.char c quoted (inner && !quoted)]
  | .quotes => return [.present]
  | .output c quoted => do
    let (text, sh) := output (← get) c
    set sh
    return marksOf quoted (String.ofList (dropEnds (text.toList.filter (·.toNat ≠ 0))))
  | .sum expression quoted => do
    let ms ← expandWord false false expression
    if !(← get).isGoing then return []
    return marksOf quoted (← sumOf (textOf ms))
  | .param name change quoted => expandChange fields name quoted change

/-- What a parameter with a change stands for. -/
def expandChange (fields : Bool) (name : String) (quoted : Bool) : Change → Expanding (List Mark)
  | .unknown => do
    modify fun sh => sh.fail "Bad substitution"
    return []
  | .keep => do
    let sh ← get
    match parameterMarks? sh name fields quoted with
    | some ms => return ms
    | none =>
      if sh.has 'u' ∧ name ≠ "@" ∧ name ≠ "*" then set (sh.fail (name ++ ": parameter not set"))
      return []
  | .length => do
    let sh ← get
    match parameterMarks? sh name false true with
    | some ms => return marksOf quoted (decimal (textOf ms).length)
    | none =>
      if sh.has 'u' ∧ name ≠ "@" ∧ name ≠ "*" then
        set (sh.fail (name ++ ": parameter not set"))
        return []
      else return marksOf quoted "0"
  | .trim atEnd most pattern => do
    let sh ← get
    match parameterMarks? sh name false true with
    | some ms =>
      let p ← expandWord false false pattern
      let p := patternOf (markedOf p)
      let text := (textOf ms).toList
      return marksOf quoted (String.ofList (if atEnd then cutEnd most p text else cutFront most p text))
    | none =>
      if sh.has 'u' ∧ name ≠ "@" ∧ name ≠ "*" then set (sh.fail (name ++ ": parameter not set"))
      return []
  | .fallback kind orEmpty word => do
    let sh ← get
    let found := (parameterMarks? sh name fields quoted).filter fun ms => !orEmpty || textOf ms ≠ ""
    match kind, found with
    | .replace, none => return []
    | .replace, some _ | .use, none => do
      let ms ← expandWord fields (!quoted) word
      return withHomeMarks (← get) ms
    | _, some ms => return ms
    | .assign, none =>
      if !isName name then
        set (sh.fail (name ++ ": bad variable name"))
        return []
      let value := textOf (← expandWord false false word)
      if !(← get).isGoing then return []
      assignOrFail name value
      return marksOf quoted value
    | .fail, none =>
      let text := textOf (← expandWord false false word)
      let text :=
        if word.isEmpty then "parameter not set" ++ (if orEmpty then " or null" else "") else text
      modify fun sh => sh.fail (name ++ ": " ++ text)
      return []

end

/-! ### Words -/

/-- The text of a word that is one field whatever is in it. -/
def expandText (w : Word) : Expanding String := do
  let w := withHome (← get) w
  return textOf (← expandWord output false false w)

/-- The value that an assignment gives. -/
def expandValue (w : Word) : Expanding String := do
  let w := withHomes (← get) w
  return textOf (← expandWord output false false w)

/-- The pattern that a word writes. -/
def expandPattern (w : Word) : Expanding (List Wild) := do
  let w := withHome (← get) w
  return patternOf (markedOf (← expandWord output false false w))

/-- The fields that a word stands for. -/
def expandFields (w : Word) : Expanding (List String) := do
  let w := withHome (← get) w
  let ms ← expandWord output true false w
  let sh ← get
  if !sh.isGoing then return []
  let fields := fieldsOf sh.separators ms
  return fields.flatMap fun f =>
    if sh.has 'f' then [String.ofList (f.map Prod.fst)] else namesOf sh.world.disk sh.folder f

/-- The fields of some words. -/
def expandAll : List Word → Expanding (List String)
  | [] => return []
  | w :: ws => do
    let fs ← expandFields output w
    if !(← get).isGoing then return []
    return fs ++ (← expandAll ws)

end Pieces

end PlanReuse.Script
