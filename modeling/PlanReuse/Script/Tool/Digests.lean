import PlanReuse.Script.Digest.Plain
import PlanReuse.Script.Digest.Secure
import PlanReuse.Script.Tool.Lines

/-!
# Digests of files

Tools that print digests and checksums of files, and tools that check them.
-/

namespace PlanReuse.Script.Tool

/-- A kind of digest: its name in rows with marks, and how long it is in hexadecimal digits. -/
structure Digest where
  mark : String
  digits : Nat
  apply : List UInt8 → List UInt8

/-- The digests there are, by the names of their tools. -/
def digests : List (String × Digest) :=
  [("md5sum", ⟨"MD5", 32, Hash.md5⟩), ("sha1sum", ⟨"SHA1", 40, Hash.sha1⟩),
    ("sha224sum", ⟨"SHA224", 56, Hash.sha224⟩), ("sha256sum", ⟨"SHA256", 64, Hash.sha256⟩),
    ("sha384sum", ⟨"SHA384", 96, Hash.sha384⟩), ("sha512sum", ⟨"SHA512", 128, Hash.sha512⟩),
    ("b2sum", ⟨"BLAKE2b", 128, Hash.blake2b 64⟩)]

/-- A name in a row, with signs escaped that would break the row; whether there are any. -/
def escapedFile (name : String) : Bool × String :=
  let text := name.toList.flatMap fun c =>
    match c with
    | '\\' => ['\\', '\\']
    | '\n' => ['\\', 'n']
    | '\r' => ['\\', 'r']
    | c => [c]
  (text ≠ name.toList, String.ofList text)

/-- A name as it stands in a row of a list, with escapes taken back. -/
def plainFile : List Char → List Char
  | '\\' :: 'n' :: r => '\n' :: plainFile r
  | '\\' :: 'r' :: r => '\r' :: plainFile r
  | '\\' :: '\\' :: r => '\\' :: plainFile r
  | c :: r => c :: plainFile r
  | [] => []

/-- The row of a file and its digest. -/
def digestRow (a : Arguments) (tagged : Bool) (d : Digest) (name text : String) : String :=
  let (isEscaped, shown) := if a.has 'z' then (false, name) else escapedFile name
  let start := if isEscaped then "\\" else ""
  let ending := if a.has 'z' then "\x00" else "\n"
  let hex := Hash.hexText (d.apply (toBytes text))
  if tagged then start ++ d.mark ++ " (" ++ shown ++ ") = " ++ hex ++ ending
  else start ++ hex ++ " " ++ (if a.lastOf "bt" = some 'b' then "*" else " ") ++ shown ++ ending

/-- A row of a list of digests. -/
structure ListedDigest where
  digest : Digest
  hex : String
  name : String

/-- Reads a row of a list. A row with a mark says which digest it has. -/
def listedDigest? (known : List Digest) (standard : Option Digest) (row : List Char) : Option ListedDigest :=
  let s := row.dropWhile fun c => c == ' ' || c == '\t'
  let (isEscaped, s) := match s with
    | '\\' :: r => (true, r)
    | r => (false, r)
  let named (name : List Char) : String := String.ofList (if isEscaped then plainFile name else name)
  let tagged := known.findSome? fun d =>
    match d.mark.toList.isPrefixOf s, s.drop d.mark.length with
    | true, rest =>
      let size := (rest.drop 1).takeWhile Char.isDigit
      let (d, rest) : Digest × List Char :=
        match rest with
        | '-' :: _ =>
          let bytes := ((countOf? (String.ofList size)).getD 512) / 8
          (⟨d.mark, 2 * bytes, Hash.blake2b bytes⟩, rest.drop (size.length + 1))
        | r => (d, r)
      let rest := rest.dropWhile (· == ' ')
      match rest with
      | '(' :: r =>
        let hex := (r.reverse.takeWhile (digitOf · < 16)).reverse
        let body := (r.take (r.length - hex.length)).reverse.dropWhile (· == ' ')
        match body with
        | '=' :: more =>
          match more.dropWhile (· == ' ') with
          | ')' :: name => if hex.length = d.digits then some ⟨d, String.ofList hex, named name.reverse⟩ else none
          | _ => none
        | _ => none
      | _ => none
    | false, _ => none
  match tagged, standard with
  | some l, _ => some l
  | none, none => none
  | none, some d =>
    let hex := s.takeWhile (digitOf · < 16)
    let d : Digest := if d.mark = "BLAKE2b" ∧ hex.length % 2 = 0 ∧ hex.length ≤ 128 ∧ hex.length ≠ 0
      then ⟨d.mark, hex.length, Hash.blake2b (hex.length / 2)⟩ else d
    match s.drop hex.length with
    | ' ' :: sign :: name =>
      if hex.length ≠ d.digits then none
      else if sign = ' ' ∨ sign = '*' then
        if name.isEmpty then none else some ⟨d, String.ofList hex, named name⟩
      else some ⟨d, String.ofList hex, named (sign :: name)⟩
    | _ => none

/-- So many things, or one. -/
def counted (n : Nat) (one many : String) : String := toString n ++ " " ++ if n = 1 then one else many

/-- Checks the files of a list. -/
def checkList (a : Arguments) (known : List Digest) (standard : Option Digest) (listName text : String) :
    Tool Unit := do
  let shownList := if listName = "-" then "'standard input'" else listName
  let quiet := a.has 'σ'
  let mut rowNumber := 0
  let mut read := 0
  let mut unread := 0
  let mut wrong := 0
  let mut matched := 0
  let mut missing := 0
  for row in linesOf text.toList do
    rowNumber := rowNumber + 1
    if row.head? ≠ some '#' then
      match listedDigest? known standard row with
      | none =>
        unread := unread + 1
        if a.has 'w' then
          say (shownList ++ ": " ++ toString rowNumber ++ ": improperly formatted " ++
            (standard.map Digest.mark).getD "CRC" ++ " checksum line")
      | some l =>
        read := read + 1
        match ← contentOf endless l.name with
        | .error fault =>
          if !(a.has 'ι' && fault = .notFound) then
            say (ofFault l.name fault)
            missing := missing + 1
            if !quiet then putLine (l.name ++ ": FAILED open or read")
        | .ok content =>
          if Hash.hexText (l.digest.apply (toBytes content)) = l.hex.toLower then
            matched := matched + 1
            if !quiet && !a.has 'κ' then putLine (l.name ++ ": OK")
          else
            wrong := wrong + 1
            if !quiet then putLine (l.name ++ ": FAILED")
  if read = 0 then
    complain (shownList ++ ": no properly formatted " ++
      (match standard with
        | some d => d.mark ++ " "
        | none => "") ++ "checksum lines found")
  else
    if !quiet then
      if unread ≠ 0 then
        say ("WARNING: " ++ counted unread "line is improperly formatted" "lines are improperly formatted")
      if missing ≠ 0 then
        say ("WARNING: " ++ counted missing "listed file could not be read" "listed files could not be read")
      if wrong ≠ 0 then
        say ("WARNING: " ++ counted wrong "computed checksum did NOT match" "computed checksums did NOT match")
      if a.has 'ι' && matched = 0 then say (shownList ++ ": no file was verified")
    if wrong ≠ 0 || missing ≠ 0 || (a.has 'ι' && matched = 0) || (a.has 'ς' && unread ≠ 0) then setStatus 1

/-- A digest in a number of bits, as an option asks for it. -/
def withLength (a : Arguments) (d : Digest) : Except String Digest :=
  match a.value? 'l' with
  | none => .ok d
  | some text =>
    match countOf? text with
    | none => .error ("invalid length: " ++ quote text)
    | some n =>
      if n = 0 then .ok d
      else if 512 < n then .error ("invalid length: " ++ quote text)
      else if n % 8 ≠ 0 then .error ("invalid length: " ++ quote text)
      else .ok ⟨if n = 512 then d.mark else d.mark ++ "-" ++ toString n, n / 4, Hash.blake2b (n / 8)⟩

/-- What is wrong with options that do not go together. -/
def digestFault? (a : Arguments) : Option String :=
  let checks := a.has 'c'
  let meaningful (c : Char) (name : String) : Option String :=
    if a.has c && !checks then some ("the --" ++ name ++ " option is meaningful only when verifying checksums") else none
  if a.has 'τ' && a.lastOf "btτ" == some 't' then some "--tag does not support --text mode"
  else if a.has 'z' && checks then some "the --zero option is not supported when verifying checksums"
  else if a.has 'τ' && checks then some "the --tag option is meaningless when verifying checksums"
  else if (a.lastOf "bt").isSome && checks then
    some "the --binary and --text options are meaningless when verifying checksums"
  else
    (((meaningful 'ι' "ignore-missing").or (meaningful 'σ' "status")).or (meaningful 'w' "warn")).or
      ((meaningful 'κ' "quiet").or (meaningful 'ς' "strict"))

/-- The tool of one digest. -/
def digestTool (d : Digest) : Arguments → Tool Unit := fun a => do
  if let some text := digestFault? a then
    misuse text
    return ()
  match withLength a d with
  | .error text =>
    complain text
    if ((a.value? 'l').bind countOf?).any (512 < ·) then
      complain "maximum digest length for 'BLAKE2b' is 512 bits"
    else if ((a.value? 'l').bind countOf?).isSome then complain "length is not a multiple of 8"
  | .ok made =>
    if a.has 'c' then
      let names := if a.operands.isEmpty then ["-"] else a.operands
      for name in names do
        match ← contentOf endless name with
        | .ok text => checkList a [d] (some d) name text
        | .error fault => complain (ofFault name fault)
    else eachContent a.operands fun name text => put (digestRow a (a.has 'τ') made name text)

/-- A checksum and the number of blocks, with the name of the file. -/
def sumRow (isCarried : Bool) (text : String) (name : Option String) : String :=
  let bytes := toBytes text
  let n := bytes.length
  let tail := match name with
    | some s => " " ++ s
    | none => ""
  if isCarried then toString (Hash.carriedSum bytes) ++ " " ++ toString ((n + 511) / 512) ++ tail ++ "\n"
  else
    let digits := toString (Hash.turnedSum bytes)
    let blocks := toString ((n + 1023) / 1024)
    String.ofList (List.replicate (5 - digits.length) '0') ++ digits ++ " " ++
      String.ofList (List.replicate (5 - blocks.length) ' ') ++ blocks ++ tail ++ "\n"

def sum : Arguments → Tool Unit := fun a =>
  eachContent a.operands fun name text =>
    put (sumRow (a.lastOf "rs" = some 's') text (if a.operands.isEmpty then none else some name))

/-- The checksum of a polynomial, or any digest by its name. -/
def cksum : Arguments → Tool Unit := fun a => do
  let named := digests.map fun (n, d) => ((n.dropEnd 3).toString, d)
  let kind := (a.value? 'a').getD "crc"
  let d? := if kind = "blake2b" then digests.lookup "b2sum" else if kind = "b2" then none else named.lookup kind
  let others := ["sysv", "bsd", "crc", "sm3"]
  if d?.isNone && !others.contains kind then
    misuse ("invalid argument " ++ quote kind ++ " for '--algorithm'\nValid arguments are:\n  - 'bsd'\n  - 'sysv'\n  - 'crc'\n  - 'md5'\n  - 'sha1'\n  - 'sha224'\n  - 'sha256'\n  - 'sha384'\n  - 'sha512'\n  - 'blake2b'\n  - 'sm3'")
  else if a.has 'c' then
    if a.has 'a' && d?.isNone then complain "--check is not supported with --algorithm=\x7bbsd,sysv,crc\x7d"
    else
      for name in if a.operands.isEmpty then ["-"] else a.operands do
        match ← contentOf endless name with
        | .ok text => checkList a (digests.map Prod.snd) d? name text
        | .error fault => complain (ofFault name fault)
  else
    eachContent a.operands fun name text => do
      let shown := if a.operands.isEmpty then none else some name
      match d? with
      | some d =>
        match withLength a d with
        | .ok d => put (digestRow a (a.lastOf "υτ" != some 'υ') d name text)
        | .error text => complain text
      | none =>
        if kind = "bsd" ∨ kind = "sysv" then put (sumRow (kind = "sysv") text shown)
        else
          let bytes := toBytes text
          put (toString (Hash.remainder bytes).toNat ++ " " ++ toString bytes.length ++
            (match shown with
              | some s => " " ++ s
              | none => "") ++ if a.has 'z' then "\x00" else "\n")

end PlanReuse.Script.Tool
