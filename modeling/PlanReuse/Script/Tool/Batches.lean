import PlanReuse.Script.Tool.Listing

/-!
# Batches of arguments

The words of a text as arguments of a program, all at once, a number at a time, those of some lines, or one
in each place of a mark.
-/

namespace PlanReuse.Script

structure Batches where
  /-- How many words a command is given at most, and how many lines of them. -/
  size : Option Nat
  lines : Option Nat
  /-- The mark in whose place a line is put. -/
  mark : Option String
  /-- What separates words; blanks and quotes if there is nothing else. -/
  separator : Option Char
  /-- A word that ends the text. -/
  stop : Option String
  /-- How many bytes a command may have, and whether more of them are an error. -/
  room : Nat
  strict : Bool
  /-- Whether nothing is run without words. -/
  skipsEmpty : Bool
  /-- Whether commands are shown before they are run. -/
  tells : Bool
  /-- The file with the words, if it is not the input. -/
  file : Option String
  command : List String
  /-- What is said about options that do not go together. -/
  warnings : List String

namespace Batches

def none_ : Batches :=
  ⟨none, none, none, none, none, 131072, false, false, false, none, ["echo"], []⟩

/-! ### Options -/

/-- The sign that a text for a separator stands for. -/
def separatorOf? (s : String) : Option Char :=
  match s.toList with
  | [c] => some c
  | '\\' :: 'x' :: ds =>
    match scanDigits 16 0 ds with
    | (n, _ + 1, []) => some (Char.ofNat n)
    | _ => none
  | ['\\', c] =>
    match c with
    | 'a' => some '\x07'
    | 'b' => some '\x08'
    | 'f' => some '\x0c'
    | 'n' => some '\n'
    | 'r' => some '\r'
    | 't' => some '\t'
    | 'v' => some '\x0b'
    | '\\' => some '\\'
    | c => if isOctal c then some (Char.ofNat (digitOf c)) else none
  | '\\' :: ds =>
    match scanDigits 8 0 ds with
    | (n, _ + 1, []) => some (Char.ofNat n)
    | _ => none
  | _ => none

/-- What is said when an option takes the place of another one. -/
def exclusive (old new : String) : String :=
  "warning: options " ++ old ++ " and " ++ new ++ " are mutually exclusive, ignoring previous " ++ old ++ " value"

/-- Follows an option. -/
def withOption (b : Batches) (option : Char × String) : Except String Batches :=
  let (letter, value) := option
  let number (name : String) (least : Nat) : Except String Nat :=
    match integerOf? 10 value with
    | some n =>
      if n < (least : Int) then
        .error ("value " ++ value ++ " for -" ++ name ++ " option should be >= " ++ toString least)
      else .ok n.toNat
    | none => .error ("invalid number \"" ++ value ++ "\" for -" ++ name ++ " option")
  let withLines (b : Batches) (n : Nat) (name : String) : Batches :=
    let b := if b.size.isSome then
        { b with size := none, warnings := b.warnings ++ [exclusive "--max-args" name] } else b
    let b := if b.mark.isSome then
        { b with mark := none, warnings := b.warnings ++ [exclusive "--replace/-I/-i" name] } else b
    { b with lines := some n }
  let withMark (b : Batches) (mark : String) : Batches :=
    let b := if b.size.isSome then
        { b with size := none, warnings := if b.size = some 1 then b.warnings
            else b.warnings ++ [exclusive "--max-args" "--replace/-I/-i"] } else b
    let b := if b.lines.isSome then
        { b with lines := none, warnings := b.warnings ++ [exclusive "--max-lines" "--replace/-I/-i"] } else b
    { b with mark := some mark }
  match letter with
  | '0' => .ok { b with separator := some (Char.ofNat 0) }
  | 'a' => .ok { b with file := some value }
  | 'd' =>
    match separatorOf? value with
    | some c => .ok { b with separator := some c }
    | none => .error ("Invalid input delimiter specification " ++ value ++
        ": the delimiter must be either a single character or an escape sequence starting with \\.")
  | 'E' | 'e' => .ok { b with stop := if value = "" then none else some value }
  | 'I' => .ok (withMark b value)
  | 'i' => .ok (withMark b (if value = "" then "\x7b\x7d" else value))
  | 'L' => (number "L" 1).map fun n => withLines b n "-L"
  | 'l' => if value = "" then .ok (withLines b 1 "--max-lines") else (number "l" 1).map fun n => withLines b n "--max-lines"
  | 'n' => (number "n" 1).map fun n =>
      if n = 1 ∧ b.mark.isSome then b
      else
        let b := if b.lines.isSome then
            { b with lines := none, warnings := b.warnings ++ [exclusive "--max-lines" "--max-args/-n"] } else b
        let b := if b.mark.isSome then
            { b with mark := none, warnings := b.warnings ++ [exclusive "--replace/-I/-i" "--max-args"] } else b
        { b with size := some n }
  | 's' => (number "s" 1).map fun n => { b with room := n }
  | 'P' => (number "P" 0).map fun _ => b
  | 'x' => .ok { b with strict := true }
  | 'r' => .ok { b with skipsEmpty := true }
  | 't' => .ok { b with tells := true }
  | _ => .ok b

def grammar : Tool.Grammar :=
  ⟨"0rtxpo", "adEILnsPσ", "eil", [("null", '0'), ("arg-file", 'a'), ("delimiter", 'd'), ("eof", 'e'),
    ("replace", 'i'), ("max-lines", 'l'), ("max-args", 'n'), ("max-procs", 'P'), ("no-run-if-empty", 'r'),
    ("max-chars", 's'), ("verbose", 't'), ("exit", 'x'), ("interactive", 'p'), ("open-tty", 'o'),
    ("process-slot-var", 'σ'), ("show-limits", 'o')]⟩

/-- The batches that arguments ask for; or what is wrong with them, and whether help is offered. -/
def ofArguments (arguments : List String) : Except (String × Bool) Batches :=
  match Tool.readArguments grammar false arguments with
  | .error text => .error (text, true)
  | .ok a =>
    let start := if a.operands.isEmpty then none_ else { none_ with command := a.operands }
    a.options.foldlM (fun b o =>
      match withOption b o with
      | .ok b => .ok b
      | .error text => .error (text, o.1 ≠ 'd')) start

/-! ### Words -/

/-- Where a reader of words is. -/
inductive WordPlace
  | space
  | word
  | quoted (c : Char)
  | escaped

/-- A reader of words: the word at hand and the words of the line, both in reverse, and the lines that are
done. -/
structure WordReader where
  place : WordPlace
  word : List Char
  isWord : Bool
  words : List String
  lines : List (List String × Bool)
  last : Char
  unmatched : Option Char

namespace WordReader

def endWord (r : WordReader) : WordReader :=
  { r with place := .space, word := [], isWord := false, words := String.ofList r.word.reverse :: r.words }

/-- Ends a line; one that ends in a blank goes on in the next one. -/
def endLine (r : WordReader) : WordReader :=
  { r with words := [], lines := (r.words.reverse, !(r.last == ' ' || r.last == '\t')) :: r.lines }

/-- Reads a character. With `whole` only line feeds end words. -/
def step (whole : Bool) (r : WordReader) (c : Char) : WordReader :=
  if r.unmatched.isSome then r
  else
    let add (r : WordReader) : WordReader := { r with place := .word, word := c :: r.word, isWord := true }
    let start (r : WordReader) : WordReader :=
      if c = '\\' then { r with place := .escaped, isWord := true }
      else if c = '\'' ∨ c = '"' then { r with place := .quoted c, isWord := true }
      else add r
    let next :=
      match r.place with
      | .space =>
        if c = '\n' then (if r.words.isEmpty then r else r.endLine) else if isSpace c then r else start r
      | .word =>
        if c = '\n' then r.endWord.endLine
        else if isSpace c ∧ !whole then r.endWord else start r
      | .quoted q =>
        if c = '\n' then { r with unmatched := some q }
        else if c = q then { r with place := .word } else { r with word := c :: r.word }
      | .escaped => add r
    { next with last := c }

def finish (r : WordReader) : WordReader :=
  match r.unmatched, r.place with
  | some _, _ => r
  | none, .quoted q => { r with unmatched := some q }
  | none, _ =>
    let r := if r.isWord then r.endWord else r
    if r.words.isEmpty then r else { r with last := '\n' }.endLine

end WordReader

/-- The words of a text line by line, each line with whether it is whole, and what is wrong at the end. -/
def wordLines (b : Batches) (s : List Char) : List (List String × Bool) × Option String :=
  match b.separator with
  | some c =>
    let parts := cutAt c s
    let parts := if parts.getLast? = some [] then parts.dropLast else parts
    (parts.map fun p => ([String.ofList p], true), none)
  | none =>
    let r := (s.foldl (WordReader.step b.mark.isSome) ⟨.space, [], false, [], [], '\n', none⟩).finish
    let lines := (if r.words.isEmpty then r.lines else (r.words.reverse, true) :: r.lines).reverse
    let lines := match b.stop with
      | none => lines
      | some stop =>
        let before := lines.takeWhile fun l => !l.1.contains stop
        let cut := (lines.drop before.length).head?.map fun l => (l.1.takeWhile (· ≠ stop), true)
        before ++ (cut.toList.filter fun l => !l.1.isEmpty)
    (lines, r.unmatched.map fun q =>
      "unmatched " ++ (if q = '"' then "double" else "single") ++
        " quote; by default quotes are special to xargs unless you use the -0 option")

/-- How many bytes words take. -/
def bytesOf (words : List String) : Nat := words.foldl (fun n w => n + w.length + 1) 0

/-- Commands in the making: those that are done and the words of the next one, both in reverse. -/
structure Filling where
  done : List (List String)
  words : List String
  /-- How many bytes the words take. -/
  size : Nat
  lines : Nat
  fault : Option String

/-- Adds a word to the next command, after the one before if it has no room. -/
def addWord (b : Batches) (f : Filling) (word : String) : Filling :=
  if f.fault.isSome then f
  else
    let isFull := b.size.any fun n => n ≤ f.words.length
    let isLarge := b.room < bytesOf b.command + f.size + word.length + 1
    if isLarge && f.words.isEmpty then { f with fault := some "argument line too long" }
    else if isLarge && b.strict && (b.size.isSome || b.lines.isSome) then
      { f with fault := some "argument list too long" }
    else if (isFull || isLarge) && !f.words.isEmpty then
      { f with done := f.words.reverse :: f.done, words := [word], size := word.length + 1 }
    else { f with words := word :: f.words, size := f.size + word.length + 1 }

def addLine (b : Batches) (f : Filling) (line : List String × Bool) : Filling :=
  let f := line.1.foldl b.addWord f
  let f := if line.2 then { f with lines := f.lines + 1 } else f
  if b.lines.any (· ≤ f.lines) && f.fault.isNone then
    { f with done := f.words.reverse :: f.done, words := [], size := 0, lines := 0 } else f

/-- The commands that are to be run, and what is wrong after them. -/
def commands (b : Batches) (s : List Char) : List (List String) × Option String :=
  let (lines, fault) := b.wordLines s
  if b.room < bytesOf b.command then ([], some "cannot fit single argument within argument list size limit")
  else
  match b.mark with
  | some m =>
    let fill (w : String) : List String :=
      b.command.take 1 ++ (b.command.drop 1).map fun t => if m.isEmpty then t else t.replace m w
    ((lines.flatMap Prod.fst).map fill, fault)
  | none =>
    let f := lines.foldl b.addLine ⟨[], [], 0, 0, none⟩
    let all := if f.words.isEmpty then f.done else f.words.reverse :: f.done
    let all := if all.isEmpty && !b.skipsEmpty && fault.isNone && f.fault.isNone then [[]] else all.reverse
    (all.map (b.command ++ ·), f.fault.or fault)

/-- A command as it is shown before it is run. -/
def shown (words : List String) : String := " ".intercalate (words.map (Tool.shellName false)) ++ "\n"

end Batches

end PlanReuse.Script
