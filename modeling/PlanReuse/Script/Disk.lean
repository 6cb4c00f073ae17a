import PlanReuse.Script.Calendar

/-!
# A disk

Folders, files and links below one top. Names lead to files by a number, so that a file lives on under
another name, or without one while it is open. Whoever uses the disk may read and write everything; only
running a file takes a permission. Every change takes its time from a clock, so that of two changes the
later one is known.
-/

namespace PlanReuse.Script

/-- The names on a path, from the top. -/
abbrev Path := List String

namespace Path

/-- The names of a text between slashes; empty ones and dots count for nothing. -/
def names (text : String) : List String :=
  ((cutAt '/' text.toList).map String.ofList).filter fun n => n ≠ "" && n ≠ "."

/-- The text of a path from the top. -/
def text (p : Path) : String := "/" ++ "/".intercalate p

/-- A path with its double dots taken literally: each removes the name before it. -/
def tidy (p : Path) : Path := p.foldl (fun q n => if n = ".." then q.dropLast else q ++ [n]) []

end Path

/-- Why the disk refuses. -/
inductive DiskFault
  | notFound
  | exists
  | isDirectory
  | notDirectory
  | notEmpty
  | denied
  | loop
  | invalid
  | full
  /-- A file that no program can be made of. -/
  | notProgram
deriving DecidableEq

def DiskFault.message : DiskFault → String
  | notFound => "No such file or directory"
  | .exists => "File exists"
  | isDirectory => "Is a directory"
  | notDirectory => "Not a directory"
  | notEmpty => "Directory not empty"
  | denied => "Permission denied"
  | loop => "Too many levels of symbolic links"
  | invalid => "Invalid argument"
  | full => "No space left on device"
  | notProgram => "Exec format error"

/-- What a name stands for. -/
inductive Entry
  | folder
  | file (number : Nat)
  | link (target : String)
  /-- A device of the system, by its name. -/
  | device (name : String)
  /-- A program of the system, by its name. -/
  | program (name : String)
deriving DecidableEq

/-- What a file holds: bytes that have been written, and behind them zero bytes that nobody has written. -/
structure Content where
  written : String
  hole : Nat
  /-- The permissions, nine bits. -/
  mode : Nat

namespace Content

/-- A content that has been written. -/
def ofText (text : String) (mode : Nat) : Content := ⟨text, 0, mode⟩

/-- How much is read of bytes that nobody has written. -/
def readableHole : Nat := 16777216

/-- All bytes. -/
def text (c : Content) : String :=
  if c.hole = 0 then c.written else c.written.pushn (Char.ofNat 0) (min c.hole readableHole)

/-- How many bytes there are. -/
def size (c : Content) : Nat := c.written.length + c.hole

/-- A content of another size: its end is cut, or zero bytes come behind it. -/
def resize (c : Content) (n : Nat) : Content :=
  if n < c.written.length then { c with written := String.ofList (c.written.toList.take n), hole := 0 }
  else { c with hole := n - c.written.length }

theorem size_resize (c : Content) (n : Nat) : (c.resize n).size = n := by
  unfold resize
  split
  · next h =>
      have h : n < c.written.toList.length := by rwa [String.length_toList]
      simp only [size, String.length_ofList, List.length_take]
      omega
  · next h => simp only [size]; omega

end Content

/-- What has permissions and a time: a file, or else what is at a place. -/
inductive Node
  | file (number : Nat)
  | place (p : Path)
deriving DecidableEq

/-- The same thing after places have moved. -/
def Node.move (moved : Path → Path) : Node → Node
  | .place p => .place (moved p)
  | n => n

structure Disk where
  entries : List (Path × Entry)
  contents : List (Nat × Content)
  /-- The number of the next file. -/
  next : Nat
  /-- The permissions of folders that have not the usual ones. -/
  folderModes : List (Path × Nat)
  /-- The user and the group of things that are not the first user's. -/
  owners : List (Node × Nat × Nat)
  /-- When things were changed last, unless that was before everything else. -/
  times : List (Node × Moment)
  /-- The time, which goes on with every change. -/
  clock : Moment

namespace Disk

/-- When the clock starts. -/
def startTime : Moment := Moment.ofSeconds 1767225600

/-- A disk with its top only. -/
def empty : Disk := ⟨[], [], 0, [], [], [], startTime⟩

/-! ### Looking up -/

/-- What a path without links stands for. -/
def entryAt? (d : Disk) (p : Path) : Option Entry := if p = [] then some .folder else d.entries.lookup p

def content? (d : Disk) (number : Nat) : Option Content := d.contents.lookup number

/-- The names in a folder, in order. -/
def names (d : Disk) (folder : Path) : List String :=
  let inside := d.entries.filter fun e => e.1 ≠ [] && e.1.dropLast = folder
  (inside.filterMap fun e => e.1.getLast?).mergeSort fun a b => decide (a ≤ b)

/-- Follows names from a folder without links on its path. Every name but the last must be a folder, or
a link to one; the last one may be missing, and is itself followed if it is a link and `follow` says so.
The fuel bounds the links. -/
def walk (d : Disk) (follow : Bool) : Nat → Path → List String → Except DiskFault Path
  | _, at_, [] => .ok at_
  | fuel, at_, ".." :: rest => walk d follow fuel at_.dropLast rest
  | fuel, at_, name :: rest =>
    let here := at_ ++ [name]
    match d.entryAt? here with
    | none => if rest = [] then .ok here else .error .notFound
    | some (.link target) =>
      if rest = [] ∧ !follow then .ok here
      else
        match fuel with
        | 0 => .error .loop
        | fuel + 1 =>
          walk d follow fuel (if target.startsWith "/" then [] else at_) (Path.names target ++ rest)
    | some .folder => walk d follow fuel here rest
    | some _ => if rest = [] then .ok here else .error .notDirectory
termination_by fuel _ names => (fuel, names.length)

/-- How many links a path may lead through. -/
def linkLimit : Nat := 40

/-- Whether a text can name folders only. -/
def namesFolder (text : String) : Bool := text.endsWith "/" || text.endsWith "/."

/-- The place that a text names, seen from a folder. A text that ends in a slash names a folder. A link
at the end is followed if `follow` says so. -/
def place (d : Disk) (follow : Bool) (folder : Path) (text : String) : Except DiskFault Path :=
  if text = "" then .error .notFound
  else
    match d.walk (follow || namesFolder text) linkLimit (if text.startsWith "/" then [] else folder)
        (Path.names text) with
    | .error fault => .error fault
    | .ok p =>
      match d.entryAt? p with
      | some .folder | none => .ok p
      | some _ => if namesFolder text then .error .notDirectory else .ok p

/-- The place that a text names, behind all links. -/
def locate (d : Disk) : Path → String → Except DiskFault Path := d.place true

/-- The place of a name itself, even if it is a link. -/
def locateName (d : Disk) : Path → String → Except DiskFault Path := d.place false

/-- What is at a place. -/
def present (d : Disk) (p : Path) : Except DiskFault (Path × Entry) :=
  match d.entryAt? p with
  | some e => .ok (p, e)
  | none => .error .notFound

/-- What a text names behind all links, and its place. -/
def find (d : Disk) (folder : Path) (text : String) : Except DiskFault (Path × Entry) :=
  (d.locate folder text).bind d.present

/-- What a name itself stands for, and its place. -/
def findName (d : Disk) (folder : Path) (text : String) : Except DiskFault (Path × Entry) :=
  (d.locateName folder text).bind d.present

/-- The content of the file that a text names. -/
def readFile (d : Disk) (folder : Path) (text : String) : Except DiskFault Content := do
  match ← d.find folder text with
  | (_, .folder) => .error .isDirectory
  | (_, .file n) =>
    match d.content? n with
    | some c => .ok c
    | none => .error .notFound
  | (_, .device _) => .ok (.ofText "" 0o666)
  | (_, .program _) => .ok (.ofText "" 0o755)
  | (_, .link _) => .error .loop

def isFolder (d : Disk) (folder : Path) (text : String) : Bool :=
  match d.find folder text with
  | .ok (_, .folder) => true
  | _ => false

/-! ### Times and permissions -/

/-- Whose time an entry at a place has. -/
def node (p : Path) : Entry → Node
  | .file n => .file n
  | _ => .place p

/-- When a thing was changed last. -/
def timeOf (d : Disk) (n : Node) : Moment := (d.times.lookup n).getD (startTime - Moment.second)

def setTime (d : Disk) (n : Node) (t : Moment) : Disk :=
  { d with times := (n, t) :: d.times.filter (·.1 ≠ n) }

/-- How far the clock goes on with a change. -/
def tick : Moment := 1000000

/-- Notes that a thing has changed. -/
def stamp (d : Disk) (n : Node) : Disk :=
  { d with times := (n, d.clock) :: d.times.filter (·.1 ≠ n), clock := d.clock + tick }

/-- Lets time pass. -/
def wait (d : Disk) (nanoseconds : Nat) : Disk := { d with clock := d.clock + nanoseconds }

/-- The permissions of what is at a place. -/
def modeOf (d : Disk) (p : Path) : Entry → Nat
  | .file n => ((d.content? n).map Content.mode).getD 0
  | .folder => (d.folderModes.lookup p).getD (if p = ["tmp"] then 0o1777 else 0o755)
  | .link _ => 0o777
  | .device _ => 0o666
  | .program _ => 0o755

/-- Changes permissions. -/
def setMode (d : Disk) (p : Path) (mode : Nat) : Entry → Disk
  | .file n =>
    { d with contents := d.contents.map fun (m, c) => if m = n then (m, { c with mode }) else (m, c) }
  | .folder => { d with folderModes := (p, mode) :: d.folderModes.filter (·.1 ≠ p) }
  | _ => d

/-- The user and the group that a thing belongs to. -/
def ownerOf (d : Disk) (n : Node) : Nat × Nat := (d.owners.lookup n).getD (0, 0)

def setOwner (d : Disk) (n : Node) (owner : Nat × Nat) : Disk :=
  { d with owners := (n, owner) :: d.owners.filter (·.1 ≠ n) }

/-! ### Changing -/

/-- Puts an entry at a place. -/
def setEntry (d : Disk) (p : Path) (e : Entry) : Disk :=
  { d with entries := (p, e) :: d.entries.filter (·.1 ≠ p) }.stamp (.place p.dropLast)

def dropEntry (d : Disk) (p : Path) : Disk :=
  { d with
    entries := d.entries.filter (·.1 ≠ p)
    folderModes := d.folderModes.filter (·.1 ≠ p) }.stamp (.place p.dropLast)

/-- Drops a name and all below it. -/
def dropTree (d : Disk) (p : Path) : Disk :=
  { d with
    entries := d.entries.filter fun e => !p.isPrefixOf e.1
    folderModes := d.folderModes.filter fun e => !p.isPrefixOf e.1 }.stamp (.place p.dropLast)

/-- Puts what is at a path, with all below it, at another one. -/
def moveTree (d : Disk) (p q : Path) : Disk :=
  let moved (r : Path) : Path := if p.isPrefixOf r then q ++ r.drop p.length else r
  ({ d with
    entries := d.entries.map fun (r, e) => (moved r, e)
    folderModes := d.folderModes.map fun (r, m) => (moved r, m)
    times := d.times.map fun (n, t) => (Node.move moved n, t)
    owners := d.owners.map fun (n, o) => (Node.move moved n, o) }.stamp (.place p.dropLast)).stamp (.place q.dropLast)

def setContent (d : Disk) (number : Nat) (c : Content) : Disk :=
  { d with contents := (number, c) :: d.contents.filter (·.1 ≠ number) }.stamp (.file number)

/-- Makes a file under a name not in use. -/
def createFile (d : Disk) (p : Path) (c : Content) : Disk :=
  { (d.setEntry p (.file d.next)).setContent d.next c with next := d.next + 1 }

/-- Whether a name may be put at a path. -/
def checkParent (d : Disk) (p : Path) : Except DiskFault Unit :=
  match d.entryAt? p.dropLast with
  | some .folder => .ok ()
  | some _ => .error .notDirectory
  | none => .error .notFound

/-- Makes a folder; a name in use is an error. -/
def createFolder (d : Disk) (p : Path) : Except DiskFault Disk := do
  if (d.entryAt? p).isSome then .error .exists
  d.checkParent p
  return (d.setEntry p .folder).stamp (.place p)

/-- Makes the folder `q` if it is missing, on the way to the folder `p`. -/
def ensureFolder (d : Disk) (p q : Path) : Except DiskFault Disk :=
  match d.entryAt? q with
  | some .folder => .ok d
  | some (.link target) => if d.isFolder q.dropLast target then .ok d else .error .exists
  | some _ => .error (if q = p then .exists else .notDirectory)
  | none => d.createFolder q

/-- Makes a folder and those above it that are missing; one that is there stays. -/
def createFolders (d : Disk) (p : Path) : Except DiskFault Disk :=
  ((List.range p.length).map fun n => p.take (n + 1)).foldlM (fun d q => d.ensureFolder p q) d

/-- The number of the file that a text names, a new empty one with the given permissions if need be. -/
def openFile (d : Disk) (folder : Path) (text : String) (mode : Nat) :
    Except DiskFault (Nat × Disk) := do
  let p ← d.locate folder text
  match d.entryAt? p with
  | some .folder => .error .isDirectory
  | some (.file n) => .ok (n, d)
  | some _ => .error .invalid
  | none =>
    if text.endsWith "/" then .error .isDirectory
    if text.endsWith "/." then .error .notFound
    d.checkParent p
    return (d.next, d.createFile p (.ofText "" mode))

/-- Puts a content into the file that a name stands for; a file that is there keeps its permissions. -/
def storeFile (d : Disk) (folder : Path) (name : String) (c : Content) : Except DiskFault Disk := do
  match d.find folder name with
  | .ok (_, .device device) => if device = "full" then .error .full else return d
  | _ =>
    let (n, d) ← d.openFile folder name c.mode
    return d.setContent n { c with mode := ((d.content? n).map Content.mode).getD c.mode }

/-- Puts a text into the file that a name stands for. -/
def writeFile (d : Disk) (folder : Path) (name text : String) (mode : Nat) : Except DiskFault Disk :=
  d.storeFile folder name (.ofText text mode)

/-! ### A system -/

structure User where
  name : String
  number : Nat
  group : Nat
  title : String
  home : String
  shell : String

/-- The users of a system. -/
def users : List User :=
  let plain (name : String) (number group : Nat) (home : String) : User :=
    ⟨name, number, group, name, home, "/usr/sbin/nologin"⟩
  [⟨"root", 0, 0, "root", "/root", "/bin/bash"⟩, plain "daemon" 1 1 "/usr/sbin", plain "bin" 2 2 "/bin",
    plain "sys" 3 3 "/dev", ⟨"sync", 4, 65534, "sync", "/bin", "/bin/sync"⟩,
    plain "games" 5 60 "/usr/games", plain "man" 6 12 "/var/cache/man", plain "lp" 7 7 "/var/spool/lpd",
    plain "mail" 8 8 "/var/mail", plain "news" 9 9 "/var/spool/news", plain "uucp" 10 10 "/var/spool/uucp",
    plain "proxy" 13 13 "/bin", plain "www-data" 33 33 "/var/www", plain "backup" 34 34 "/var/backups",
    ⟨"list", 38, 38, "Mailing List Manager", "/var/list", "/usr/sbin/nologin"⟩,
    ⟨"irc", 39, 39, "ircd", "/run/ircd", "/usr/sbin/nologin"⟩,
    ⟨"_apt", 42, 65534, "", "/nonexistent", "/usr/sbin/nologin"⟩,
    plain "nobody" 65534 65534 "/nonexistent"]

/-- The row of a user in the table of users. -/
def User.row (u : User) : String :=
  ":".intercalate [u.name, "x", toString u.number, toString u.group, u.title, u.home, u.shell] ++ "\n"

/-- The groups of a system. -/
def groups : List (String × Nat) :=
  (users.filter fun u => u.number = u.group).map (fun u => (u.name, u.number)) ++
    [("adm", 4), ("tty", 5), ("disk", 6), ("man", 12), ("kmem", 15), ("dialout", 20), ("fax", 21), ("voice", 22),
      ("cdrom", 24), ("floppy", 25), ("tape", 26), ("sudo", 27), ("audio", 29), ("dip", 30), ("operator", 37),
      ("src", 40), ("shadow", 42), ("utmp", 43), ("video", 44), ("sasl", 45), ("plugdev", 46), ("staff", 50),
      ("games", 60), ("users", 100), ("nogroup", 65534)]

/-- The name of a number, or the number. -/
def userName (n : Nat) : String := ((users.find? fun u => u.number = n).map User.name).getD (toString n)

def groupName (n : Nat) : String :=
  ((groups.find? fun g => g.2 = n && g.1 ≠ "nobody").map Prod.fst).getD (toString n)

/-- The folders of a system. -/
def systemFolders : List Path :=
  [["bin"], ["dev"], ["etc"], ["home"], ["opt"], ["proc"], ["root"], ["tmp"], ["usr"], ["usr", "bin"],
    ["usr", "lib"], ["usr", "local"], ["usr", "local", "bin"], ["usr", "sbin"], ["usr", "share"], ["var"],
    ["var", "tmp"], ["dev", "fd"]]

/-- What every system has, besides files and programs. -/
def systemEntries : List (Path × Entry) :=
  let devices := ["null", "zero", "full", "tty", "random", "urandom"]
  let streams := ["stdin", "stdout", "stderr"].zipIdx.map fun (n, i) =>
    (["dev", n], Entry.device (toString i))
  systemFolders.map (fun p => (p, .folder)) ++ devices.map (fun n => (["dev", n], .device n)) ++ streams ++
    (List.range 10).map fun i => (["dev", "fd", toString i], .device (toString i))

/-- A system without files. -/
def bareSystem (programs : List String) : Disk :=
  { empty with
    entries := systemEntries ++
      programs.flatMap fun n => [(["usr", "bin", n], .program n), (["bin", n], .program n)] }

/-- The disk of a system with some programs. -/
def system (programs : List String) : Disk :=
  let table := Content.ofText (String.join (users.map User.row)) 0o644
  { (bareSystem programs).createFile ["etc", "passwd"] table with times := [], clock := startTime }

theorem content?_setContent (d : Disk) (n : Nat) (c : Content) :
    (d.setContent n c).content? n = some c := by
  simp [content?, setContent, stamp]

theorem entryAt?_setEntry (d : Disk) (p : Path) (e : Entry) (h : p ≠ []) :
    (d.setEntry p e).entryAt? p = some e := by
  simp [entryAt?, setEntry, stamp, h]

theorem timeOf_setTime (d : Disk) (n : Node) (t : Moment) : (d.setTime n t).timeOf n = t := by
  simp [timeOf, setTime]

end Disk

end PlanReuse.Script
