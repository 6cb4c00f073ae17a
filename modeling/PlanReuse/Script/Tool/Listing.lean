import PlanReuse.Script.Format
import PlanReuse.Script.Pattern
import PlanReuse.Script.Tool.Files
import PlanReuse.Script.Tool.Times

/-!
# Listings

Tools that say what is in folders: the names there, and what the disk knows of each.
-/

namespace PlanReuse.Script.Tool

/-! ### What is known of a thing -/

/-- The size of what is at a place. -/
def sizeAt (d : Disk) : Entry → Nat
  | .file n => ((d.content? n).map Content.size).getD 0
  | .link target => target.length
  | .folder => 4096
  | _ => 0

/-- How many blocks of a thousand bytes the disk gives to a thing, in steps of four. -/
def blocksAt (d : Disk) : Entry → Nat
  | .file n => (((d.content? n).map fun c => c.written.length).getD 0 + 4095) / 4096 * 4
  | .folder => 4
  | _ => 0

/-- How many names a thing has. A folder has one in itself and one in each folder below. -/
def linksOf (d : Disk) (p : Path) (e : Entry) : Nat :=
  match e with
  | .file _ => max 1 (d.entries.countP fun f => f.2 == e)
  | .folder => 2 + d.entries.countP fun f => f.2 == .folder && f.1.dropLast == p && f.1 ≠ []
  | _ => 1

def kindLetter : Entry → Char
  | .folder => 'd'
  | .link _ => 'l'
  | .device _ => 'c'
  | _ => '-'

/-- A number that tells things apart. -/
def serial (d : Disk) (p : Path) : Entry → Nat
  | .file n => 9000 + n
  | _ => 5000 + (d.entries.reverse.findIdx? (·.1 == p)).getD 0

/-- A size with one letter for its unit, rounded up; below ten there is one place. -/
def humanSize (base n : Nat) : String :=
  if n < base then toString n
  else
    let rec go : Nat → Nat → List Char → String
      | 0, _, _ => toString n
      | _, _, [] => toString n
      | fuel + 1, unit, c :: more =>
        let tenths := (n * 10 + unit - 1) / unit
        let whole := (n + unit - 1) / unit
        if tenths < 100 then toString (tenths / 10) ++ "." ++ toString (tenths % 10) ++ c.toString
        else if whole < base then toString whole ++ c.toString
        else go fuel (unit * base) more
    go 8 base (if base = 1000 then "kMGTPEZY".toList else "KMGTPEZY".toList)

/-- A text brought to a width. -/
def padLeft (width : Nat) (s : String) : String :=
  String.ofList (List.replicate (width - s.length) ' ') ++ s

def padRight (width : Nat) (s : String) : String :=
  s ++ String.ofList (List.replicate (width - s.length) ' ')

/-! ### Names in a listing -/

/-- A thing in a listing, with the name under which it is shown. -/
structure Shown where
  name : String
  place : Path
  entry : Entry

/-- What a listing puts behind a name. -/
def suffixOf (a : Arguments) (d : Disk) (e : Entry) : String :=
  let style := match a.lastOf "Fpφι" with
    | some 'F' => "classify"
    | some 'p' => "slash"
    | some 'φ' => "file-type"
    | some _ => (a.value? 'ι').getD ""
    | none => ""
  let all := style = "classify"
  let most := all || style = "file-type"
  match e with
  | .folder => if most || style = "slash" then "/" else ""
  | .link _ => if most then "@" else ""
  | .program _ => if all then "*" else ""
  | .file n => if all && ((d.content? n).any fun c => c.mode &&& 0o111 ≠ 0) then "*" else ""
  | .device _ => ""

/-- A name with the signs in it that are not plain written out. -/
def escapedName (quoted : Bool) (s : String) : String :=
  String.ofList (s.toList.flatMap fun c =>
    match c with
    | '\\' => ['\\', '\\']
    | '\n' => ['\\', 'n']
    | '\t' => ['\\', 't']
    | ' ' => if quoted then [' '] else ['\\', ' ']
    | '"' => if quoted then ['\\', '"'] else ['"']
    | c =>
      if 0x20 ≤ c.toNat ∧ c.toNat < 0x7F then [c]
      else
        let ds := Nat.toDigits 8 c.toNat
        '\\' :: (List.replicate (3 - ds.length) '0' ++ ds))

/-- Whether a character cannot be shown as it is. -/
def isHidden (c : Char) : Bool := c.toNat < 0x20 || 0x7F ≤ c.toNat

/-- A character behind a backslash. -/
def hiddenText (c : Char) : List Char :=
  let letters : List (Char × Char) :=
    [('\x07', 'a'), ('\x08', 'b'), ('\x09', 't'), ('\x0a', 'n'), ('\x0b', 'v'), ('\x0c', 'f'), ('\x0d', 'r')]
  match letters.lookup c with
  | some l => ['\\', l]
  | none => '\\' :: [c.toNat / 64 % 8, c.toNat / 8 % 8, c.toNat % 8].map fun n => Char.ofNat (48 + n)

/-- What stands between single quotes for a text. Characters that cannot be shown stand in quotes of their own
with a dollar sign in front of them; the flag says whether such quotes are open. -/
def shellBody : Bool → List Char → List Char
  | _, [] => []
  | isOpen, c :: r =>
    if isHidden c then (if isOpen then [] else ['\'', '$', '\'']) ++ hiddenText c ++ shellBody true r
    else if c = '\'' then ['\'', '\\', '\'', '\''] ++ shellBody false r
    else (if isOpen then ['\'', '\''] else []) ++ c :: shellBody false r

/-- A name in quotes if a shell would not take it as one plain word. If it holds single quotes and nothing
worse, the quotes around it are double ones. -/
def shellName (always : Bool) (s : String) : String :=
  let cs := s.toList
  let isSafe (c : Char) : Bool := c.isAlphanum || "_-./,:+%]".contains c
  let isPlain (c : Char) (i : Nat) : Bool :=
    isSafe c || c == '@' || (c == '#' || c == '~') && i ≠ 0 || (c == '\x7b' || c == '\x7d') && cs.length ≠ 1
  let isMild (c : Char) (i : Nat) : Bool :=
    isSafe c || c == ' ' || c == '\'' || (c == '#' || c == '~') && i = 0
  if !always && !cs.isEmpty && cs.zipIdx.all fun (c, i) => isPlain c i then s
  else if cs.contains '\'' && cs.zipIdx.all fun (c, i) => isMild c i then "\"" ++ s ++ "\""
  else String.ofList ('\'' :: shellBody false cs ++ ['\''])

/-- A name as options want it shown. -/
def shownName (a : Arguments) (s : String) : String :=
  match a.lastOf "bQNθq" with
  | some 'b' => escapedName false s
  | some 'Q' => "\"" ++ escapedName true s ++ "\""
  | some 'q' => String.ofList (s.toList.map fun c => if 0x20 ≤ c.toNat ∧ c.toNat < 0x7F then c else '?')
  | some 'θ' =>
    match a.value? 'θ' with
    | some "c" => "\"" ++ escapedName true s ++ "\""
    | some "escape" => escapedName false s
    | some "shell" | some "shell-escape" => shellName false s
    | some "shell-always" | some "shell-escape-always" => shellName true s
    | _ => s
  | _ => s

/-! ### Order -/

/-- The order of texts in which rows of digits count as numbers. -/
def naturalOrder : Nat → List Char → List Char → Ordering
  | 0, s, t => List.compareLex Ord.compare s t
  | fuel + 1, s, t =>
    let plain (s : List Char) : List Char := s.takeWhile fun c => !c.isDigit
    match versionText (plain s) (plain t) with
    | .eq =>
      let (m, i, s') := scanDigits 10 0 (s.drop (plain s).length)
      let (n, j, t') := scanDigits 10 0 (t.drop (plain t).length)
      if i = 0 ∧ j = 0 then .eq else (Ord.compare m n).then (naturalOrder fuel s' t')
    | o => o
where
  /-- A tilde comes before the end, letters before all else. -/
  rank (c : Char) : Int :=
    if c = '~' then -1 else if c.isAlpha then c.toNat else c.toNat + 256
  versionText : List Char → List Char → Ordering
    | [], [] => .eq
    | [], c :: _ => if c = '~' then .gt else .lt
    | c :: _, [] => if c = '~' then .lt else .gt
    | c :: s, d :: t => if c = d then versionText s t else Ord.compare (rank c) (rank d)

/-- The order of names with endings that do not count at first. Nothing comes first, then the names that
begin with a point. -/
def versionOrder (s t : String) : Ordering :=
  let stem (s : String) : List Char :=
    let parts := cutAt '.' s.toList
    let isEnding (p : List Char) : Bool :=
      match p with
      | c :: r => (c.isAlpha || c == '~') && r.all fun c => c.isAlphanum || c == '~'
      | [] => false
    let rec trim : List (List Char) → List (List Char)
      | p :: (q :: more) => if isEnding p && !(more.isEmpty && q.isEmpty) then trim (q :: more) else p :: q :: more
      | ps => ps
    (trim parts.reverse).reverse.intersperse ['.'] |>.flatten
  let front (s : String) : Nat :=
    if s = "" then 0 else if s = "." then 1 else if s = ".." then 2 else if s.startsWith "." then 3 else 4
  let fuel := s.length + t.length + 1
  (Ord.compare (front s) (front t)).then
    ((naturalOrder fuel (stem s) (stem t)).then (naturalOrder fuel s.toList t.toList))

/-- The ending of a name, with its point. -/
def endingOf (s : String) : String :=
  let tail := s.toList.reverse.takeWhile (· ≠ '.')
  if tail.length = s.length then "" else String.ofList ('.' :: tail.reverse)

/-- What the things of a listing are ordered by. -/
def orderOf (a : Arguments) : Char :=
  match a.lastOf "StXvUfσ" with
  | some 'σ' =>
    match a.value? 'σ' with
    | some "size" => 'S'
    | some "time" => 't'
    | some "extension" => 'X'
    | some "version" => 'v'
    | some "none" => 'U'
    | _ => ' '
  | some c => c
  | none => ' '

/-- Things in the order that options ask for. -/
def ordered (a : Arguments) (d : Disk) (xs : List Shown) : List Shown :=
  let order := orderOf a
  let compareNames (x y : Shown) : Ordering := Ord.compare x.name y.name
  let compare (x y : Shown) : Ordering :=
    match order with
    | 'S' => (Ord.compare (sizeAt d y.entry) (sizeAt d x.entry)).then (compareNames x y)
    | 't' =>
      let time (s : Shown) : Moment := d.timeOf (Disk.node s.place s.entry)
      (Ord.compare (time y) (time x)).then (compareNames x y)
    | 'X' => (Ord.compare (endingOf x.name) (endingOf y.name)).then (compareNames x y)
    | 'v' => (versionOrder x.name y.name).then (Ord.compare x.name y.name)
    | _ => compareNames x y
  let sorted := if order = 'U' ∨ order = 'f' then xs else xs.mergeSort fun x y => compare x y != .gt
  let sorted := if a.has 'r' && order ≠ 'U' && order ≠ 'f' then sorted.reverse else sorted
  if a.has 'γ' then
    let isFolder (s : Shown) : Bool :=
      s.entry == .folder || (match s.entry with
        | .link t => d.isFolder s.place.dropLast t
        | _ => false)
    sorted.filter isFolder ++ sorted.filter fun s => !isFolder s
  else sorted

/-! ### Layouts -/

/-- How a listing is laid out: `l` for long, `C` and `x` for columns, `m` for commas, else by lines. -/
def layoutOf (a : Arguments) : Char :=
  let isLong := a.has 'l' || a.has 'g' || a.has 'o' || a.has 'n' || a.has 'Τ'
  match a.lastOf "lgonΤCxm1ζλ" with
  | some 'C' => 'C'
  | some 'x' => 'x'
  | some 'm' => 'm'
  | some '1' | some 'ζ' => if isLong then 'l' else '1'
  | some 'λ' =>
    match a.value? 'λ' with
    | some "long" | some "verbose" => 'l'
    | some "vertical" => 'C'
    | some "across" | some "horizontal" => 'x'
    | some "commas" => 'm'
    | _ => '1'
  | some _ => 'l'
  | none => '1'

/-- The format of times in a long listing. -/
def listedTime (a : Arguments) (w : Work) (t : Moment) : String :=
  let isRecent := w.disk.clock - Moment.ofSeconds 15778476 < t && decide (t ≤ w.disk.clock)
  let style := if a.lastOf "Ττ" == some 'Τ' then "full-iso" else (a.value? 'τ').getD "locale"
  let format :=
    if style = "full-iso" then "%Y-%m-%d %H:%M:%S.%N %z"
    else if style = "long-iso" then "%Y-%m-%d %H:%M"
    else if style = "iso" then if isRecent then "%m-%d %H:%M" else "%Y-%m-%d "
    else if style.startsWith "+" then
      match (style.drop 1).toString.splitOn "\n" with
      | [old, recent] => if isRecent then recent else old
      | one => one.headD ""
    else if isRecent then "%b %e %H:%M" else "%b %e  %Y"
  Moment.text (zoneOf w) format t

/-- A size as options want it shown. -/
def listedSize (a : Arguments) (n : Nat) : String :=
  if a.has 'h' then humanSize 1024 n
  else if a.has 'Σ' then humanSize 1000 n
  else
    match (a.value? 'κ').bind sizeOf? with
    | some unit => toString ((n + unit - 1) / max unit 1)
    | none => toString n

def listedBlocks (a : Arguments) (n : Nat) : String :=
  if a.has 'h' then humanSize 1024 (n * 1024) else if a.has 'Σ' then humanSize 1000 (n * 1024) else toString n

/-- The name of a thing with what stands before and behind it. -/
def listedName (a : Arguments) (d : Disk) (s : Shown) : String := shownName a s.name ++ suffixOf a d s.entry

/-- What stands before the names of a listing: numbers and blocks. -/
def listedFront (a : Arguments) (d : Disk) (xs : List Shown) (s : Shown) : String :=
  let column (isShown : Bool) (text : Shown → String) : String :=
    if isShown then padLeft ((xs.map fun x => (text x).length).foldl max 0) (text s) ++ " " else ""
  column (a.has 'i') (fun x => toString (serial d x.place x.entry)) ++
    column (a.has 's') (fun x => listedBlocks a (blocksAt d x.entry))

def longLines (a : Arguments) (w : Work) (xs : List Shown) : List String :=
  let d := w.disk
  let owner (s : Shown) : String :=
    let (u, _) := d.ownerOf (Disk.node s.place s.entry)
    if a.has 'n' then toString u else Disk.userName u
  let group (s : Shown) : String :=
    let (_, g) := d.ownerOf (Disk.node s.place s.entry)
    if a.has 'n' then toString g else Disk.groupName g
  let size (s : Shown) : String :=
    match s.entry with
    | .device _ => "1, 3"
    | e => listedSize a (sizeAt d e)
  let links (s : Shown) : String := toString (linksOf d s.place s.entry)
  let width (f : Shown → String) : Nat := (xs.map fun x => (f x).length).foldl max 0
  xs.map fun s =>
    let target := match s.entry with
      | .link t => " -> " ++ shownName a t ++ (match d.find s.place.dropLast t with
          | .ok (_, e) => suffixOf a d e
          | .error _ => "")
      | _ => ""
    let name := shownName a s.name ++ (match s.entry with | .link _ => "" | e => suffixOf a d e)
    listedFront a d xs s ++ modeText (kindLetter s.entry) (d.modeOf s.place s.entry) ++ " " ++
      padLeft (width links) (links s) ++ " " ++
      (if a.has 'g' then "" else padRight (width owner) (owner s) ++ " ") ++
      (if a.has 'o' || a.has 'G' then "" else padRight (width group) (group s) ++ " ") ++
      (if a.has 'α' then padRight (width owner) (owner s) ++ " " else "") ++
      padLeft (width size) (size s) ++ " " ++
      listedTime a w (d.timeOf (Disk.node s.place s.entry)) ++ " " ++ name ++ target

/-- Blanks and tabs from one column to another. -/
def indent : Nat → Nat → Nat → Nat → String
  | 0, _, _, _ => ""
  | fuel + 1, tab, start, stop =>
    if stop ≤ start then ""
    else if tab ≠ 0 ∧ (start + 1) / max tab 1 < stop / max tab 1 then
      "\t" ++ indent fuel tab (start + (tab - start % tab)) stop
    else " " ++ indent fuel tab (start + 1) stop

/-- Names in as many columns as a line holds. -/
def inColumns (across : Bool) (width tab : Nat) (names : List String) : List String :=
  let count := names.length
  let rowsFor (columns : Nat) : Nat := (count + columns - 1) / columns
  let columnOf (columns i : Nat) : Nat := if across then i % columns else i / rowsFor columns
  let widths (columns : Nat) : List Nat :=
    (List.range columns).map fun c =>
      (names.zipIdx.map fun (n, i) =>
        if columnOf columns i = c then n.length + (if c + 1 = columns then 0 else 2) else 0).foldl max 0
  let fit (columns : Nat) : Bool := (widths columns).foldl (· + ·) 0 < width
  let most := max 1 (min count (width / 3))
  let columns := (((List.range most).map (most - ·)).find? fun c => c ≤ 1 || fit c).getD 1
  let ws := widths columns
  let starts := (List.range columns).map fun c => ((ws.take c).foldl (· + ·) 0)
  let rows := rowsFor columns
  (List.range rows).map fun r =>
    let inRow := names.zipIdx.filter fun (_, i) => (if across then i / columns else i % rows) = r
    (inRow.foldl (fun (line, at_) (n, i) =>
      let start := starts.getD (columnOf columns i) 0
      (line ++ indent (start + 1) tab at_ start ++ n, start + n.length)) ("", 0)).1

/-- Names with commas between them, in lines that are not too long. -/
def inCommas (width : Nat) (names : List String) : List String :=
  let (done, line) := names.zipIdx.foldl (fun (done, line) (n, i) =>
    if i = 0 then (done, n)
    else if line.length + 2 + n.length < width then (done, line ++ ", " ++ n)
    else (done ++ [line ++ ","], n)) (([] : List String), "")
  if names.isEmpty then [] else done ++ [line]

/-- The lines of a listing. -/
def listLines (a : Arguments) (w : Work) (xs : List Shown) : List String :=
  let xs := ordered a w.disk xs
  let names := xs.map fun s => listedFront a w.disk xs s ++ listedName a w.disk s
  let width := match (a.value? 'w').bind countOf? with
    | some 0 => 100000
    | some n => n
    | none => 80
  match layoutOf a with
  | 'l' => longLines a w xs
  | 'C' => inColumns false width (((a.value? 'T').bind countOf?).getD 8) names
  | 'x' => inColumns true width (((a.value? 'T').bind countOf?).getD 8) names
  | 'm' => inCommas width names
  | _ => names

/-- Whether a name in a folder is shown. -/
def isListed (a : Arguments) (n : String) : Bool :=
  let fitsAny (ps : List String) : Bool :=
    ps.any fun p => fits (patternOf (p.toList.map fun c => (c, false))) n.toList
  (a.has 'a' || a.has 'A' || a.has 'f' || (!n.startsWith "." && !fitsAny (a.values 'η'))) &&
    !(a.has 'B' && n.endsWith "~") && !fitsAny (a.values 'I')

/-- What a folder holds, as a listing shows it. -/
def inFolder (a : Arguments) (d : Disk) (p : Path) : List Shown :=
  let names := (d.names p).filter (isListed a)
  let inside := names.filterMap fun n => (d.entryAt? (p ++ [n])).map fun e => Shown.mk n (p ++ [n]) e
  if (a.lastOf "aA" == some 'a') || a.has 'f' then ⟨".", p, .folder⟩ :: ⟨"..", p.dropLast, .folder⟩ :: inside
  else inside

/-- The folders below a place, each before those inside it. -/
def foldersBelow (a : Arguments) (d : Disk) : Nat → String → Path → List (String × Path)
  | 0, _, _ => []
  | fuel + 1, text, p =>
    (text, p) :: (ordered a d (inFolder a d p)).flatMap fun s =>
      if s.entry = .folder ∧ s.name ≠ "." ∧ s.name ≠ ".." then foldersBelow a d fuel (inside text s.name) s.place
      else []

/-- The words that options take. -/
def listingWords : List (Char × String × List (List String)) :=
  [('σ', "--sort", [["none"], ["time"], ["size"], ["extension"], ["version"], ["width"]]),
    ('λ', "--format", [["verbose", "long"], ["commas"], ["horizontal", "across"], ["vertical"], ["single-column"]]),
    ('χ', "--color", [["always", "yes", "force"], ["never", "no", "none"], ["auto", "tty", "if-tty"]]),
    ('ι', "--indicator-style", [["none"], ["slash"], ["file-type"], ["classify"]]),
    ('θ', "--quoting-style", [["literal"], ["shell"], ["shell-always"], ["shell-escape"], ["shell-escape-always"],
      ["c"], ["c-maybe"], ["escape"], ["locale"], ["clocale"]])]

def ls : Arguments → Tool Unit := fun a => do
  let fail (text : String) : Tool Unit := do
    say text
    setStatus 2
  if let some s := (a.values 'w').find? fun s => (countOf? s).isNone then
    fail ("invalid line width: " ++ quote s)
    return ()
  if let some s := (a.values 'κ').find? fun s => (sizeOf? s).isNone && (unitSize? s).isNone && s ≠ "human-readable" &&
      s ≠ "si" then
    fail ("invalid --block-size argument " ++ quote s)
    return ()
  if let some (s, option, groups) := a.options.findSome? fun (c, s) =>
      (listingWords.find? (·.1 == c)).bind fun (_, option, groups) =>
        if (choiceOf groups.flatten s).isSome || (c = 'χ' ∧ s.isEmpty) then none else some (s, option, groups) then
    misuseAlike option s groups
    return ()
  let w ← get
  let names := if a.operands.isEmpty then ["."] else a.operands
  let ending := if a.has 'ζ' then "\x00" else "\n"
  let putEach (lines : List String) : Tool Unit := lines.forM fun l => put (l ++ ending)
  let follows := a.has 'L' || a.has 'H' || !(a.has 'd' || a.has 'F' || layoutOf a == 'l')
  let found := names.map fun s =>
    (s, if a.has 'L' then w.disk.find w.folder s
      else if follows then
        match w.disk.find w.folder s with
        | .ok (p, .folder) => .ok (p, Entry.folder)
        | .ok e => if a.has 'H' then .ok e else w.disk.findName w.folder s
        | .error _ => w.disk.findName w.folder s
      else w.disk.findName w.folder s)
  found.forM fun (s, r) => do
    match r with
    | .error fault =>
      say (ofFault ("cannot access " ++ quote s) fault)
      setStatus 2
    | .ok _ => return ()
  let files := found.filterMap fun (s, r) =>
    match r with
    | .ok (p, e) => if e = .folder && !a.has 'd' then none else some (Shown.mk s p e)
    | .error _ => none
  let folders := found.filterMap fun (s, r) =>
    match r with
    | .ok (p, .folder) => if a.has 'd' then none else some (Shown.mk s p .folder)
    | _ => none
  let folders := (ordered a w.disk folders).flatMap fun s =>
    if a.has 'R' then foldersBelow a w.disk (w.disk.entries.length + 1) s.name s.place else [(s.name, s.place)]
  putEach (listLines a w files)
  let headed := a.has 'R' || found.length > 1
  folders.zipIdx.forM fun ((s, p), i) => do
    if i > 0 ∨ !files.isEmpty then putLine ""
    if headed then putLine (s ++ ":")
    let xs := inFolder a w.disk p
    if layoutOf a = 'l' ∨ a.has 's' then
      putLine ("total " ++ listedBlocks a ((xs.map fun s => blocksAt w.disk s.entry).foldl (· + ·) 0))
    putEach (listLines a w xs)

/-! ### One thing at a time -/

/-- What a thing is, in words. -/
def kindOf (d : Disk) (e : Entry) : String :=
  match e with
  | .file _ => if sizeAt d e = 0 then "regular empty file" else "regular file"
  | e => kindInWords d e

/-- What a letter of a format says of a thing; none if it says nothing. -/
def statPart? (w : Work) (s : String) (p : Path) (e : Entry) (letter : Char) : Option String :=
  let d := w.disk
  let time := d.timeOf (Disk.node p e)
  let (user, group) := d.ownerOf (Disk.node p e)
  let mode := d.modeOf p e
  let bits := match e with
    | .folder => 0o040000
    | .link _ => 0o120000
    | .device _ => 0o020000
    | _ => 0o100000
  match letter with
  | 'a' => some (modeDigits 1 mode)
  | 'A' => some (modeText (kindLetter e) mode)
  | 'b' => some (toString (blocksAt d e * 2))
  | 'B' => some "512"
  | 'd' => some "2049"
  | 'D' => some "801"
  | 'f' => some (String.ofList (Nat.toDigits 16 (bits + mode)))
  | 'F' => some (kindOf d e)
  | 'g' => some (toString group)
  | 'G' => some (Disk.groupName group)
  | 'h' => some (toString (linksOf d p e))
  | 'i' => some (toString (serial d p e))
  | 'm' => some "/"
  | 'n' => some s
  | 'N' => some (match e with
    | .link target => quote s ++ " -> " ++ quote target
    | _ => quote s)
  | 'o' => some "4096"
  | 's' => some (toString (sizeAt d e))
  | 't' | 'T' | 'r' => some "0"
  | 'u' => some (toString user)
  | 'U' => some (Disk.userName user)
  | 'w' | 'y' | 'x' | 'z' => some (Moment.text (zoneOf w) "%Y-%m-%d %H:%M:%S.%N %z" time)
  | 'W' | 'Y' | 'X' | 'Z' => some (toString time.seconds)
  | _ => none

/-- A format of a listing with what it says of a thing. -/
def fillStat (w : Work) (s : String) (p : Path) (e : Entry) : Nat → List Char → String
  | 0, _ => ""
  | _ + 1, [] => ""
  | fuel + 1, '%' :: '%' :: r => "%" ++ fillStat w s p e fuel r
  | fuel + 1, '%' :: r =>
    let flags := r.takeWhile fun c => "-+ #0".contains c
    let (width, _, r') := scanDigits 10 0 (r.drop flags.length)
    let r' := match r' with
      | '.' :: q => q.dropWhile Char.isDigit
      | q => q
    match r' with
    | [] => "%"
    | letter :: rest =>
      match statPart? w s p e letter with
      | some text =>
        let text := if flags.contains '-' then padRight width text
          else if flags.contains '0' && text.toList.all Char.isDigit then
            String.ofList (List.replicate (width - text.length) '0') ++ text
          else padLeft width text
        text ++ fillStat w s p e fuel rest
      | none => "?" ++ fillStat w s p e fuel rest
  | fuel + 1, c :: r => c.toString ++ fillStat w s p e fuel r

/-- What is told of a thing if no format is given. -/
def statFormat (e : Entry) : String :=
  "  File: %N\n  Size: %-10s\tBlocks: %-10b IO Block: %-6o %F\n" ++
    "Device: 8,1\tInode: %-11i Links: %h" ++ (match e with
      | .device _ => "     Device type: 1,3\n"
      | _ => "\n") ++
    "Access: (%04a/%10.10A)  Uid: (%5u/%8U)   Gid: (%5g/%8G)\n" ++
    "Access: %x\nModify: %y\nChange: %z\n Birth: %w\n"

def stat : Arguments → Tool Unit := fun a =>
  wantOperand a (a.operands.forM fun s => do
    let w ← get
    match if a.has 'L' then w.disk.find w.folder s else w.disk.findName w.folder s with
    | .error fault => complain (ofFault ("cannot statx " ++ quote s) fault)
    | .ok (p, e) =>
      let fill (f : String) : String := fillStat w s p e (f.length + 1) f.toList
      match a.options.reverse.find? fun o => o.1 = 'c' || o.1 = 'π' with
      | some ('c', f) => putLine (fill f)
      | some (_, f) => put (fill (String.ofList (unescape f.toList).1))
      | none =>
        if a.has 't' then putLine (fill "%n %s %b %f %u %g %D %i %h %t %T %X %Y %Z %W %o")
        else
          let text := (statFormat e).replace "%N"
            (match e with
              | .link target => s ++ " -> " ++ target
              | _ => s)
          put (fill text))

/-! ### Sizes of trees -/

/-- The sizes of what is below a place, what is below first, and the size of all. -/
def treeSizes (a : Arguments) (d : Disk) (size : Entry → Nat) :
    Nat → Nat → String → Path → Entry → List Nat → List (Nat × Nat × String × Bool) × Nat × List Nat
  | 0, _, _, _, _, seen => ([], 0, seen)
  | fuel + 1, depth, text, p, e, seen =>
    match e with
    | .folder =>
      let (rows, total, below, seen) := (d.names p).foldl (fun (rows, total, below, seen) n =>
        match d.entryAt? (p ++ [n]) with
        | none => (rows, total, below, seen)
        | some f =>
          let excluded := (a.values 'ξ').any fun x =>
            fits (patternOf (x.toList.map fun c => (c, false))) n.toList ||
              fits (patternOf (x.toList.map fun c => (c, false))) (inside text n).toList
          if excluded then (rows, total, below, seen)
          else
            let (more, sum, seen) := treeSizes a d size fuel (depth + 1) (inside text n) (p ++ [n]) f seen
            (rows ++ more, total + sum, below + (if f = .folder then sum else 0), seen)) ([], size e, 0, seen)
      let own := if a.has 'S' then total - below else total
      (rows ++ [(depth, own, text, true)], total, seen)
    | .file n =>
      if seen.contains n then ([], 0, seen)
      else ([(depth, size e, text, false)], size e, n :: seen)
    | e => ([(depth, size e, text, false)], size e, seen)

def du : Arguments → Tool Unit := fun a => do
  if let some s := (a.values 'd').find? fun s => (countOf? s).isNone then
    misuse ("invalid maximum depth " ++ quote s)
    return ()
  if a.has 's' && a.has 'a' then
    misuse "cannot both summarize and show all entries"
    return ()
  if let some n := (a.value? 'd').bind countOf? then
    if a.has 's' && n ≠ 0 then
      misuse ("warning: summarizing conflicts with --max-depth=" ++ toString n)
      return ()
  let w ← get
  let apparent := a.has 'α' || a.has 'b'
  let size (e : Entry) : Nat := if apparent then sizeAt w.disk e else blocksAt w.disk e * 1024
  let unit := match a.options.reverse.find? fun o => "bkmhBΣ".contains o.1 with
    | some ('b', _) => 1
    | some ('m', _) => 1048576
    | some ('B', s) => (sizeOf? s <|> unitSize? s).getD 1024
    | _ => 1024
  let shown (n : Nat) : String :=
    match a.lastOf "bkmhBΣ" with
    | some 'h' => humanSize 1024 n
    | some 'Σ' => humanSize 1000 n
    | _ => toString ((n + unit - 1) / unit)
  let most := if a.has 's' then 0 else ((a.value? 'd').bind countOf?).getD 100000
  let mut all := 0
  let mut seen : List Nat := []
  for s in if a.operands.isEmpty then ["."] else a.operands do
    match w.disk.findName w.folder s with
    | .error fault => complain (ofFault ("cannot access " ++ quote s) fault)
    | .ok (p, e) =>
      let (rows, total, seen') := treeSizes a w.disk size (w.disk.entries.length + 1) 0 s p e seen
      seen := seen'
      all := all + total
      for (depth, n, text, isFolder) in rows do
        if depth ≤ most ∧ (isFolder ∨ a.has 'a' ∨ depth = 0) then
          put (shown n ++ "\t" ++ text ++ (if a.has '0' then "\x00" else "\n"))
  if a.has 'c' then putLine (shown all ++ "\ttotal")

end PlanReuse.Script.Tool
