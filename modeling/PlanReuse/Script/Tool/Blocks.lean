import PlanReuse.Script.Tool.Pieces

/-!
# Copying blocks

A tool copies bytes block by block from one file to another, changes them on the way and counts the blocks.
-/

namespace PlanReuse.Script.Tool

/-- A number of bytes: factors with units between crosses. -/
def blockSize? (text : String) : Option Nat :=
  (cutAt 'x' text.toList).foldl (fun n part =>
    let factor := match scanDigits 10 0 part with
      | (_, 0, _) => none
      | (n, _, ['c']) => some n
      | (n, _, ['w']) => some (2 * n)
      | _ => sizeOf? (String.ofList part)
    n.bind fun n => factor.map (n * ·)) (some 1)

/-- A number of blocks, or of bytes if a letter says so. -/
def blockCount? (text : String) : Option (Nat × Bool) :=
  match blockSize? text with
  | some n => some (n, false)
  | none =>
    if text.endsWith "B" then (blockSize? (text.dropEnd 1).toString).map fun n => (n, true) else none

/-- The operands of a copy. -/
structure Copying where
  source : String
  target : Option String
  inputSize : Nat
  outputSize : Nat
  recordSize : Nat
  skip : Nat
  seek : Nat
  count : Option Nat
  conversions : List String
  inputFlags : List String
  outputFlags : List String
  status : String

def copyOperands : List String :=
  ["if", "of", "bs", "ibs", "obs", "cbs", "count", "skip", "iseek", "seek", "oseek", "conv", "iflag", "oflag", "status"]

def conversionNames : List String :=
  ["ascii", "ebcdic", "ibm", "block", "unblock", "lcase", "ucase", "sparse", "swab", "sync", "excl", "nocreat",
    "notrunc", "noerror", "fdatasync", "fsync"]

def flagNames : List String :=
  ["append", "direct", "directory", "dsync", "sync", "fullblock", "nonblock", "noatime", "nocache", "noctty",
    "nofollow", "count_bytes", "skip_bytes", "seek_bytes", "text", "binary"]

/-- Reads the operands; what is wrong with them, and whether help is offered. -/
def readCopying (arguments : List String) : Except (Bool × String) Copying := do
  let pairs ← arguments.mapM fun s =>
    let name := String.ofList (s.toList.takeWhile (· ≠ '='))
    if s.contains '=' ∧ copyOperands.contains name then
      Except.ok (name, String.ofList (s.toList.drop (name.length + 1)))
    else .error (true, "unrecognized operand " ++ quote s)
  let value? (names : List String) : Option String := (pairs.reverse.find? fun p => names.contains p.1).map Prod.snd
  let size (names : List String) (standard : Nat) : Except (Bool × String) Nat :=
    match value? names with
    | none => .ok standard
    | some s => match blockSize? s with
      | some (n + 1) => .ok (n + 1)
      | _ => .error (false, "invalid number: " ++ quote s)
  let words (name : String) (known : List String) (about : String) : Except (Bool × String) (List String) :=
    let ws := (pairs.filter (·.1 == name)).flatMap fun p => (cutAt ',' p.2.toList).map String.ofList
    match ws.find? fun w => !known.contains w with
    | some w => .error (true, "invalid " ++ about ++ ": " ++ quote w)
    | none => .ok ws
  let count (names : List String) : Except (Bool × String) (Option (Nat × Bool)) :=
    match value? names with
    | none => .ok none
    | some s => match blockCount? s with
      | some n => .ok (some n)
      | none => .error (false, "invalid number: " ++ quote s)
  let conversions ← words "conv" conversionNames "conversion"
  let inputFlags ← words "iflag" flagNames "input flag"
  let outputFlags ← words "oflag" flagNames "output flag"
  let status := (value? ["status"]).getD ""
  if !(["", "none", "noxfer", "progress"].contains status) then
    throw (true, "invalid status level: " ++ quote status)
  let clash (names : List String) : Bool := 1 < (names.filter conversions.contains).length
  if clash ["ascii", "ebcdic", "ibm"] then throw (false, "cannot combine any two of \x7bascii,ebcdic,ibm\x7d")
  if clash ["block", "unblock"] then throw (false, "cannot combine block and unblock")
  if clash ["lcase", "ucase"] then throw (false, "cannot combine lcase and ucase")
  if clash ["excl", "nocreat"] then throw (false, "cannot combine excl and nocreat")
  let both := value? ["bs"]
  let inputSize ← if both.isSome then size ["bs"] 512 else size ["ibs"] 512
  let outputSize ← if both.isSome then size ["bs"] 512 else size ["obs"] 512
  let recordSize ← size ["cbs"] 1
  let bytes (n : Option (Nat × Bool)) (block : Nat) (inBytes : Bool) : Option Nat :=
    n.map fun (n, b) => if b || inBytes then n else n * block
  return {
    source := (value? ["if"]).getD "-"
    target := value? ["of"]
    inputSize, outputSize, recordSize
    skip := (bytes (← count ["skip", "iseek"]) inputSize (inputFlags.contains "skip_bytes")).getD 0
    seek := (bytes (← count ["seek", "oseek"]) outputSize (outputFlags.contains "seek_bytes")).getD 0
    count := bytes (← count ["count"]) inputSize (inputFlags.contains "count_bytes")
    conversions, inputFlags, outputFlags, status }

namespace Copying

/-- Bytes with neighbours changed over. -/
def swab : List Char → List Char
  | a :: b :: r => b :: a :: swab r
  | r => r

/-- Lines as records of one size, and how many had to be cut. -/
def records (size : Nat) (s : List Char) : List Char × Nat :=
  let ls := linesOf s
  ((ls.map fun l => l.take size ++ List.replicate (size - l.length) ' ').flatten,
    (ls.filter fun l => size < l.length).length)

/-- Records of one size as lines. -/
def lines (size : Nat) (s : List Char) : List Char :=
  ((everyFew size (s.length + 1) s).map fun r => (r.reverse.dropWhile (· == ' ')).reverse ++ ['\n']).flatten

/-- The bytes that are written for those that are read, and how many records were cut. -/
def convert (c : Copying) (s : List Char) : List Char × Nat :=
  let has (name : String) : Bool := c.conversions.contains name
  let missing := if has "sync" then (c.inputSize - s.length % c.inputSize) % c.inputSize else 0
  let s := s ++ List.replicate missing (if has "block" || has "unblock" then ' ' else Char.ofNat 0)
  let s := if has "swab" then swab s else s
  let s := if has "ucase" then s.map Char.toUpper else if has "lcase" then s.map Char.toLower else s
  if has "block" && c.recordSize ≠ 1 then records c.recordSize s
  else if has "unblock" && c.recordSize ≠ 1 then (lines c.recordSize s, 0)
  else (s, 0)

/-- A file in which bytes have been written at the place where a copy begins, and behind them zero bytes. -/
def place (c : Copying) (old : Content) (out : List Char) (zeros : Nat) : Content :=
  let keeps := c.conversions.contains "notrunc"
  let base := if keeps ∧ c.seek ≤ old.size then old else old.resize c.seek
  let reach := max base.size (c.seek + out.length + zeros)
  if out.isEmpty ∧ base.size ≤ c.seek ∨ base.hole > Content.readableHole then base.resize reach
  else
    let s := base.text.toList
    let text := s.take c.seek ++ out ++ List.replicate (min zeros mostRead) (Char.ofNat 0) ++
      s.drop (c.seek + out.length + zeros)
    (Content.ofText (String.ofList text) base.mode).resize reach

/-- Whole blocks and those that are not. -/
def blocks (size n : Nat) : String :=
  toString (n / size) ++ "+" ++ (if n % size = 0 then "0" else "1") ++ " records "

end Copying

def dd (arguments : List String) : Tool Unit := do
  match readCopying arguments with
  | .error (true, text) => misuse text
  | .error (false, text) => complain text
  | .ok c =>
    let has (name : String) : Bool := c.conversions.contains name
    let wanted := match c.count with
      | some n => c.skip + n
      | none => endless
    let isZero : Bool := match (← get).disk.find (← get).folder c.source with
      | .ok (_, .device "zero") => c.source != "-"
      | _ => false
    let isPlain := c.conversions.all fun n => ["notrunc", "fsync", "fdatasync", "excl", "nocreat"].contains n
    let zeros := if isZero && isPlain && mostRead < wanted then c.count.getD 0 else 0
    let before := (← get).input
    match ← contentOf (max wanted endless) c.source with
    | .error fault => complain (ofFault ("failed to open " ++ quote c.source) fault)
    | .ok text =>
      let s := text.toList
      if s.length < c.skip ∧ c.count ≠ some 0 ∧ !isZero then
        say (quote (if c.source = "-" then "standard input" else c.source) ++ ": cannot skip to specified offset")
      let body := s.drop c.skip
      let body := match c.count with
        | some n => if zeros = 0 then body.take n else []
        | none => body
      if c.source = "-" then modify fun w => { w with input := before.drop (c.skip + body.length) }
      let (out, cut) := c.convert body
      match c.target with
      | none => put ("".pushn (Char.ofNat 0) (min zeros mostRead) ++ String.ofList out)
      | some name =>
        let w ← get
        let exists_ := (w.disk.find w.folder name).toOption.isSome
        let about := "failed to open " ++ quote name
        if has "nocreat" && !exists_ then complain (ofFault about .notFound)
        else if has "excl" && exists_ then complain (ofFault about .exists)
        else
          match w.disk.find w.folder name with
          | .ok (_, .device _) => let _ ← putFile about name (String.ofList out) false
          | _ =>
            let old := (w.disk.readFile w.folder name).toOption.getD (.ofText "" (masked w 0o666))
            let c := if c.outputFlags.contains "append" then { c with seek := if has "notrunc" then old.size else 0 } else c
            let _ ← change about fun w => w.disk.storeFile w.folder name (c.place old out zeros)
      if c.status ≠ "none" ∧ (← get).status = 0 then
        let n := out.length + zeros
        let amount := if n = 1 then "1 byte" else toString n ++ " bytes"
        note (Copying.blocks c.inputSize (body.length + zeros) ++ "in\n" ++ Copying.blocks c.outputSize n ++ "out\n" ++
          (if cut = 0 then "" else toString cut ++ " truncated record" ++ (if cut = 1 then "\n" else "s\n")) ++
          if c.status = "noxfer" then "" else amount ++ " copied, 0.001 s, " ++ toString n ++ ".0 kB/s\n")

end PlanReuse.Script.Tool
