import PlanReuse.Text.Blank
import PlanReuse.Text.Cut

/-!
# Level filters

Which lines a log takes is written as a level, or as a list of levels for parts of the program:
`info, storage=debug, net = warn`. A pattern for the texts of lines may follow a slash.
-/

namespace PlanReuse.Log

/-- The names that a level goes by. -/
def levelNames : List String := ["off", "error", "warn", "info", "debug", "trace"]

/-- A level, in any case of letters. -/
def isLevel (s : List Char) : Bool :=
  levelNames.any fun n => n.toList == (Text.trim s).map Char.toLower

/-- The name of a part of the program holds no blanks. -/
def isPart (s : List Char) : Bool := !(Text.trim s).any Text.isBlank

/-- One filter of a list: a word alone, which is a level or a part, or a part and its level. -/
def isClause (s : List Char) : Bool :=
  let s := Text.trim s
  s.isEmpty ||
    match cutAt '=' s with
    | [a] => isPart a
    | [a, b] => isPart a && ((Text.trim b).isEmpty || isLevel b)
    | _ => false

/-- A character of a pattern: one that stands for itself, any character, an end of the line, or a bar
between two patterns. Patterns with groups, classes, repetitions and escapes are not taken. -/
def isPatternChar (c : Char) : Bool := !"\\*+?()[]\x7b\x7d".contains c

/-- Whether a text is a level filter. -/
def isFilter (text : String) : Bool :=
  match cutAt '/' text.toList with
  | [levels] => (cutAt ',' levels).all isClause
  | [levels, pattern] => (cutAt ',' levels).all isClause && pattern.all isPatternChar
  | _ => false

/-- The start of the complaint about a text that is no filter. -/
def filterComplaint : String := "日志级别无效"

end PlanReuse.Log
