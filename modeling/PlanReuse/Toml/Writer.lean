import PlanReuse.Text.Quoted
import PlanReuse.Toml.Text

/-!
# Writing TOML strings

A string is written in the plainest notation that needs no escape: between double quotes, between single
quotes, or in one of the notations for several lines. A string with a control character other than tab
and line feed is written with escapes.
-/

namespace PlanReuse.Toml

/-- The longest run of a character. -/
def longestRun (c : Char) (run best : Nat) : List Char → Nat
  | [] => best
  | d :: r => if d = c then longestRun c (run + 1) (max best (run + 1)) r else longestRun c 0 best r

/-- A control character that only an escape can write. -/
def needsEscape (c : Char) : Bool := (c.toNat < 0x20 && c ≠ '\t' && c ≠ '\n') || c.toNat = 0x7F

/-- The notations of a string. -/
inductive Notation
  | basic
  | literal
  | lines
  | literalLines
deriving DecidableEq

/-- The notation that a string is written in. -/
def notationOf (s : List Char) : Notation :=
  let controls := s.any needsEscape
  let newline := s.contains '\n'
  let backslash := s.contains '\\'
  let doubles := longestRun '"' 0 0 s
  let singles := longestRun '\'' 0 0 s
  if !controls && !backslash && doubles == 0 && !newline then .basic
  else if !controls && singles == 0 && !newline then .literal
  else if !controls && !backslash && doubles ≤ 2 then .lines
  else if !controls && singles ≤ 2 then .literalLines
  else if newline then .lines
  else .basic

/-- Four upper-case hexadecimal digits. -/
def hexFour (n : Nat) : List Char := (Text.hexPadded 4 n).map Char.toUpper

/-- How a character stands between double quotes. In a string of several lines a line feed stands as it
is, and so do two quotes in a row; `quotes` counts the quotes just before. -/
def escapeFrom (several : Bool) (quotes : Nat) : List Char → List Char
  | [] => []
  | c :: r =>
    if c = '"' then
      if several ∧ quotes < 2 then '"' :: escapeFrom several (quotes + 1) r
      else '\\' :: '"' :: escapeFrom several 0 r
    else
      (if c = '\x08' then ['\\', 'b']
      else if c = '\t' then ['\\', 't']
      else if c = '\n' then if several then ['\n'] else ['\\', 'n']
      else if c = '\x0c' then ['\\', 'f']
      else if c = '\r' then ['\\', 'r']
      else if c = '\\' then ['\\', '\\']
      else if needsEscape c then '\\' :: 'u' :: hexFour c.toNat
      else [c]) ++ escapeFrom several 0 r

/-- A string of several lines begins on a line of its own, if it has a line feed. -/
def firstLineEnd (s : List Char) : List Char := if s.contains '\n' then ['\n'] else []

/-- The text of a string. -/
def writeString (s : List Char) : List Char :=
  match notationOf s with
  | .basic => '"' :: (escapeFrom false 0 s ++ ['"'])
  | .literal => '\'' :: (s ++ ['\''])
  | .lines => ['"', '"', '"'] ++ firstLineEnd s ++ escapeFrom true 0 s ++ ['"', '"', '"']
  | .literalLines => ['\'', '\'', '\''] ++ firstLineEnd s ++ s ++ ['\'', '\'', '\'']

end PlanReuse.Toml
