import PlanReuse.Script.Edit.Reader
import PlanReuse.Script.Edit.Run
import PlanReuse.Script.Tool.Names

/-!
# Editing texts

A tool that edits lines, of texts one after the other or of each file in its place.
-/

namespace PlanReuse.Script.Tool

open Edit in
/-- The sheets that options name, in their order, and an error if a file cannot be read. An option for the
extended notation counts for the sheets behind it. -/
def sheetsOf : List (Char × String) → Nat → Bool → Tool (Except String (List Sheet))
  | [], _, _ => return .ok []
  | (c, value) :: rest, number, extended => do
    match c with
    | 'E' => sheetsOf rest number true
    | 'e' =>
      let more ← sheetsOf rest (number + 1) extended
      return more.map fun sheets => ⟨none, number, extended, value.toList⟩ :: sheets
    | 'f' =>
      match ← contentOf endless value with
      | .error fault => return .error (ofFault ("couldn't open file " ++ value) fault)
      | .ok text =>
        let more ← sheetsOf rest number extended
        return more.map fun sheets => ⟨some value, 0, extended, text.toList⟩ :: sheets
    | _ => sheetsOf rest number extended

/-- The lines of a text from a file. -/
def editRows (ending : Char) (file : String) (text : String) : List Edit.Row :=
  (piecesOf ending text.toList).map fun p =>
    if p.getLast? = some ending then ⟨p.dropLast, true, file⟩ else ⟨p, false, file⟩

/-- A text of lines. -/
def textOfRows (ending : Char) (rows : List Edit.Row) : List Char :=
  rows.flatMap fun r => r.text ++ if r.isEnded then [ending] else []

/-- The name under which an old file is kept; a star in the suffix stands for the name. -/
def keptName (suffix name : String) : String :=
  let base := if suffix.contains '*' then suffix.replace "*" (lastName name) else lastName name ++ suffix
  if base.contains '/' then base
  else
    match name.toList.reverse.dropWhile (· ≠ '/') with
    | [] => base
    | folder => String.ofList folder.reverse ++ base

/-- The lines of a file, or what is said if it cannot be read and whether that ends the editor. -/
def rowsOfFile (ending : Char) (name : String) : Tool (Except (String × Bool) (List Edit.Row)) := do
  let w ← get
  if name ≠ "-" ∧ w.disk.isFolder w.folder name then return .error ("read error on " ++ name ++ ": Is a directory", true)
  match ← contentOf endless name with
  | .ok text => return .ok (editRows ending name text)
  | .error fault => return .error (ofFault ("can't read " ++ name) fault, false)

/-- Edits texts one after the other as one text; the lines that are left if a step ends the editor. -/
def editStream (s : Edit.Settings) (names : List String) (e : Edit.Editor) : Tool Unit := do
  let mut rows : List (List Edit.Row) := []
  let mut broken := false
  for name in names do
    if !broken then
      match ← rowsOfFile s.ending name with
      | .ok more => rows := more :: rows
      | .error (text, isEnd) =>
        say text
        setStatus (if isEnd then 4 else 2)
        broken := isEnd
  let (ending, e) ← ((Edit.edit s rows.reverse.flatten none <* Edit.flushFiles).run).run e
  match ending with
  | .ok (some status) =>
    setStatus status
    let left := textOfRows s.ending (e.rows.filter fun r => r.file == "-")
    if (← get).inputIsFile then modify fun w => { w with input := left }
  | .ok none => return ()
  | .error text =>
    say ("-e expression #1, char 0: " ++ text)
    setStatus 1

/-- Edits files one by one, in their places if there is a suffix for the old ones. -/
def editEach (s : Edit.Settings) (suffix : Option String) : List String → Edit.Editor → Tool Unit
  | [], _ => return ()
  | name :: names, e => do
    let w ← get
    if suffix.isSome ∧ w.disk.isFolder w.folder name then
      say ("couldn't edit " ++ name ++ ": not a regular file")
      setStatus 4
      editEach s suffix names e
    else
      match ← rowsOfFile s.ending name with
      | .error (text, isEnd) =>
        say text
        setStatus (if isEnd then 4 else 2)
        if !isEnd then editEach s suffix names e
      | .ok rows =>
        let isDue := e.isDue && suffix.isNone
        let (ending, e) ← ((Edit.edit s rows (suffix.map fun _ => [])).run).run { e with isDue }
        match suffix, e.page with
        | some suffix, some pieces =>
          if suffix ≠ "" then
            discard (putFile name (keptName suffix name) (String.ofList (textOfRows s.ending rows)) false)
          discard (putFile name name (String.join pieces.reverse) false)
        | _, _ => pure ()
        match ending with
        | .ok (some status) =>
          setStatus status
          discard (((Edit.flushFiles).run).run e)
        | .ok none =>
          if names.isEmpty then discard (((Edit.flushFiles).run).run e)
          editEach s suffix names e
        | .error text =>
          say ("-e expression #1, char 0: " ++ text)
          setStatus 1

/-- Empties the files that steps write; false if one cannot be written. -/
def emptyFiles : List String → Tool Bool
  | [] => return true
  | name :: names => do
    if name = "/dev/stdout" ∨ name = "/dev/stderr" then emptyFiles names
    else if ← putFile ("couldn't open file " ++ name) name "" false then emptyFiles names
    else
      setStatus 4
      return false

def sed (launch : Launcher) : Arguments → Tool Unit := fun a => do
  let isExtended := a.has 'E'
  let sheets ← sheetsOf a.options 1 false
  let (sheets, names) : Option (Except String (List Edit.Sheet)) × List String := match sheets, a.operands with
    | .ok [], [] => (none, [])
    | .ok [], text :: names => (some (.ok [⟨none, 1, isExtended, text.toList⟩]), names)
    | sheets, names => (some sheets, names)
  match sheets with
  | none =>
    note "Usage: sed [OPTION]... \x7bscript-only-if-no-other-script\x7d [input-file]...\n"
    setStatus 1
  | some (.error text) => complain text
  | some (.ok sheets) =>
    match Edit.stepsOf sheets, (a.value? 'l').map countOf? with
    | _, some none => complain ("invalid line length: " ++ (a.value? 'l').getD "")
    | .error fault, _ =>
      say fault.text
      setStatus fault.status
    | .ok steps, width =>
      let isQuiet := (sheets.head?.map fun s => s.text.take 2 == ['#', 'n']).getD false
      let s : Edit.Settings := ⟨steps.toArray, a.has 'n' || isQuiet, if a.has 'z' then Char.ofNat 0 else '\n',
        (width.bind id).getD 70, launch⟩
      if ← emptyFiles (steps.flatMap fun step => step.action.written) then
        let names := if names.isEmpty then ["-"] else names
        if a.has 'i' then editEach s (some ((a.value? 'i').getD "")) names .fresh
        else if a.has 's' then editEach s none names .fresh
        else editStream s names .fresh

def editing (launch : Launcher) (arguments : List String) : Tool Unit :=
  withOptions ⟨"nErszubπδσφ", "efl", "i", [("quiet", 'n'), ("silent", 'n'), ("regexp-extended", 'E'),
    ("expression", 'e'), ("file", 'f'), ("in-place", 'i'), ("separate", 's'), ("null-data", 'z'),
    ("zero-terminated", 'z'), ("line-length", 'l'), ("unbuffered", 'u'), ("binary", 'b'), ("posix", 'π'),
    ("debug", 'δ'), ("sandbox", 'σ'), ("follow-symlinks", 'φ')]⟩ 1 arguments fun a =>
    sed launch { a with options := a.options.map fun (c, v) => (if c = 'r' then 'E' else c, v) }

end PlanReuse.Script.Tool
