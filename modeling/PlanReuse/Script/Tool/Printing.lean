import PlanReuse.Script.Format
import PlanReuse.Script.Tool.Listing

/-!
# Printing by a format

A tool prints its arguments as a format says. Its directives may name the size of a number, which counts for
nothing, and may ask for an argument as a shell would have to be given it.
-/

namespace PlanReuse.Script.Tool

/-- The letters of directives that a flag, or a precision, does not go with. -/
def refused (flag : Char) : List Char :=
  match flag with
  | '#' => "cdisu".toList
  | '0' => "cs".toList
  | '.' => "c".toList
  | _ => []

/-- The directive behind a percent sign, and the rest. -/
def readSizedDirective (s : List Char) : Directive × List Char :=
  match s with
  | 'b' :: r => (.field .plain .none .none 'b', r)
  | 'q' :: r => (.shown (shellName false), r)
  | _ =>
    let flags := s.takeWhile isFlag
    let (_, behind) := readExtent (s.drop flags.length)
    let isPrecise := behind.head? == some '.'
    let behind := if isPrecise then (readExtent (behind.drop 1)).2 else behind
    let front := s.take (s.length - behind.length)
    let sizes := behind.takeWhile fun c => "lLhjtz".contains c
    let rest := behind.drop sizes.length
    let wrong := (flags ++ if isPrecise then ['.'] else []).flatMap refused
    let fault (name : List Char) : Directive × List Char :=
      (.stop (some ("%" ++ String.ofList (front ++ sizes ++ name) ++ ": invalid conversion specification")), [])
    match rest with
    | [] => fault []
    | c :: r =>
      if c = 'b' ∨ wrong.contains c then fault [c]
      else
        match readDirective (front ++ [c]) with
        | (.field layout width precision letter, _) => (.field layout width precision letter, r)
        | _ => fault [c]

/-- What a backslash stands for together with what is behind it, and the rest. -/
def readPrintedEscape (s : List Char) : Directive × List Char :=
  match s with
  | 'c' :: _ => (.stop none, [])
  | 'e' :: r => (.plain '\x1b', r)
  | '"' :: r => (.plain '"', r)
  | 'x' :: r =>
    let digits := (r.take 2).takeWhile fun c => digitOf c < 16
    if digits.isEmpty then (.stop (some "missing hexadecimal number in escape"), [])
    else (.plain (Char.ofNat (scanDigits 16 0 digits).1), r.drop digits.length)
  | _ =>
    let (c, rest) := readEscape s
    (.plain c, rest)

def printf (arguments : List String) : Tool Unit := do
  if arguments = ["--help"] then put ("Usage: " ++ (← get).name ++ " FORMAT [ARGUMENT]...\n")
  else if arguments = ["--version"] then put "printf (GNU coreutils) 9.1\n"
  else
    match if arguments.head? = some "--" then arguments.tail else arguments with
    | [] => misuse "missing operand"
    | format :: rest =>
      let ds := directivesBy readSizedDirective readPrintedEscape (format.length + 1) format.toList
      let p := Print.run true ds rest
      let s := p.output.toList
      let written ← p.complaints.reverse.foldlM (fun (written : Nat) (mark, text) => do
        put (String.ofList ((s.take mark).drop written))
        say text
        return mark) 0
      put (String.ofList (s.drop written))
      if !p.ended ∧ !p.asked then
        if let some s := rest.head? then say ("warning: ignoring excess arguments, starting with " ++ quote s)
      setStatus (min p.status 1)

end PlanReuse.Script.Tool
