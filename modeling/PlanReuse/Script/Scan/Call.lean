import PlanReuse.Script.Scan.Run

/-!
# Calls of scanning programs

The arguments of a call: separators and variables that are set beforehand, the program or the files that
hold it, and the operands.
-/

namespace PlanReuse.Script.Scan

/-- What a call asks for. -/
structure Call where
  /-- Variables and their values, the first first. -/
  settings : List (String × String)
  /-- The files that hold the program. -/
  sources : List String
  words : List String

/-- Reads options up to the first word that is none. -/
def Call.ofWords (c : Call) : Nat → List String → Except String Call
  | 0, ws => .ok { c with words := ws }
  | fuel + 1, ws =>
    match ws with
    | [] => .ok c
    | "--" :: rest => .ok { c with words := rest }
    | s :: rest =>
      let take (letter : Char) (value : String) (rest : List String) : Except String Call :=
        match letter with
        | 'F' =>
          let value := String.ofList (plainText (value.length + 1) value.toList)
          ofWords { c with settings := c.settings ++ [("FS", value)] } fuel rest
        | 'f' => ofWords { c with sources := c.sources ++ [value] } fuel rest
        | 'W' => ofWords c fuel rest
        | _ =>
          match State.assignmentOf? value with
          | some (name, value) => ofWords { c with settings := c.settings ++ [(name, value)] } fuel rest
          | none => .error ("improper assignment: -v " ++ value)
      match s.toList with
      | '-' :: letter :: r =>
        if letter = 'F' ∨ letter = 'f' ∨ letter = 'v' ∨ letter = 'W' then
          match r, rest with
          | [], value :: rest => take letter value rest
          | [], [] => .error ("option -" ++ letter.toString ++ " lacks argument")
          | r, rest => take letter (String.ofList r) rest
        else .error ("not an option: " ++ s)
      | _ => .ok { c with words := ws }

/-- The text of a program, and the operands. -/
def Call.program (c : Call) : Tool (Except String (String × List String)) := do
  match c.sources, c.words with
  | [], [] => return .ok ("", [])
  | [], text :: operands => return .ok (text, operands)
  | sources, operands =>
    let mut text := ""
    for name in sources do
      match ← Tool.contentOf Tool.endless (State.inputName name) with
      | .ok more => text := text ++ more ++ "\n"
      | .error fault => return .error ("cannot open " ++ name ++ " (" ++ fault.message ++ ")")
    return .ok (text, operands)

/-- The names of routines that a program calls. -/
def calledNames (text : String) : List String :=
  ((tokens? text).getD []).filterMap fun
    | .call s => some s
    | _ => none

/-- How deeply actions may be nested, and how often they may be repeated. -/
def steps : Nat := 50000000

/-- Runs the program of a call. -/
def awk (commands : Commands) (arguments : List String) : Tool Unit := do
  let fault (text : String) : Tool Unit := do
    Tool.say text
    Tool.setStatus 2
  match Call.ofWords ⟨[], [], []⟩ (arguments.length + 1) arguments with
  | .error text => fault text
  | .ok c =>
    match ← c.program with
    | .error text => fault text
    | .ok (text, operands) =>
      match Program.ofText? text with
      | none => fault "syntax error"
      | some p =>
        match (calledNames text).find? fun n => !p.routines.any (·.name == n) with
        | some n => fault ("function " ++ n ++ " never defined")
        | none => modify (run p commands steps c.settings operands)

end PlanReuse.Script.Scan
