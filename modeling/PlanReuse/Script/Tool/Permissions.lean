import PlanReuse.Script.Tool.Basic

/-!
# Permissions

Which permissions files get, and how they are changed.
-/

namespace PlanReuse.Script.Tool

/-! ### Permissions in words -/

/-- Where the bits of a change come from. -/
inductive BitSource
  | given
  /-- They are those of some users, for all users. -/
  | copied
  /-- The right to run goes with them where somebody has it, or for a folder. -/
  | withRunning
deriving DecidableEq

/-- A change: its operator, the bits that it is about, none for all that are not masked, and its own. -/
structure ModeChange where
  op : Char
  affected : Nat
  value : Nat
  /-- The bits that are named, of which a folder keeps no others. -/
  named : Nat
  source : BitSource

/-- All bits of permissions. -/
def allBits : Nat := 0o7777

/-- The permissions after a change. -/
def ModeChange.apply (mask : Nat) (isFolder : Bool) (old : Nat) (c : ModeChange) : Nat :=
  let kept := if isFolder then 0o6000 &&& (allBits - c.named) else 0
  let value := match c.source with
    | .given => c.value
    | .copied =>
      let bits := c.value &&& old
      (if bits &&& 0o444 ≠ 0 then 0o444 else 0) ||| (if bits &&& 0o222 ≠ 0 then 0o222 else 0) |||
        (if bits &&& 0o111 ≠ 0 then 0o111 else 0)
    | .withRunning => if isFolder || old &&& 0o111 ≠ 0 then c.value ||| 0o111 else c.value
  let value := value &&& (if c.affected = 0 then allBits - mask else c.affected) &&& (allBits - kept)
  match c.op with
  | '+' => old ||| value
  | '-' => old &&& (allBits - value)
  | _ => (old &&& ((if c.affected = 0 then 0 else allBits - c.affected) ||| kept)) ||| value

/-- The bits of users. -/
def bitsOfUsers (users : List Char) : Nat :=
  users.foldl (fun n c => n ||| (match c with
    | 'u' => 0o4700
    | 'g' => 0o2070
    | 'o' => 0o1007
    | _ => allBits)) 0

/-- The bits of letters. -/
def bitsOfLetters (letters : List Char) : Nat :=
  letters.foldl (fun n c => n ||| (match c with
    | 'r' => 0o444
    | 'w' => 0o222
    | 'x' => 0o111
    | 's' => 0o6000
    | 't' => 0o1000
    | _ => 0)) 0

/-- An operator and what is behind it, and the rest of the text. -/
def changeOf? (affected : Nat) : List Char → Option (ModeChange × List Char)
  | [] => none
  | op :: r =>
    if op ≠ '+' ∧ op ≠ '-' ∧ op ≠ '=' then none
    else
      let named (value : Nat) : Nat := if affected = 0 then value else affected &&& value
      match scanDigits 8 0 r, r with
      | (n, _ + 1, rest), _ =>
        if allBits < n || affected ≠ 0 || rest.head?.any (· ≠ ',') then none
        else some (⟨op, allBits, n, allBits, .given⟩, rest)
      | _, 'u' :: rest => some (⟨op, affected, 0o700, named 0o700, .copied⟩, rest)
      | _, 'g' :: rest => some (⟨op, affected, 0o70, named 0o70, .copied⟩, rest)
      | _, 'o' :: rest => some (⟨op, affected, 7, named 7, .copied⟩, rest)
      | _, _ =>
        let letters := r.takeWhile fun c => "rwxXst".contains c
        let value := bitsOfLetters letters
        some (⟨op, affected, value, named value, if letters.contains 'X' then .withRunning else .given⟩,
          r.drop letters.length)

/-- The changes that operators ask for the same users. -/
def changesFrom? (affected : Nat) : Nat → List Char → Option (List ModeChange)
  | 0, _ => none
  | fuel + 1, s => do
    let (c, rest) ← changeOf? affected s
    if rest.isEmpty then return [c] else return c :: (← changesFrom? affected fuel rest)

/-- The changes that a text asks for: octal digits, or users and operators between commas. -/
def modeChanges? (text : String) : Option (List ModeChange) :=
  match scanDigits 8 0 text.toList with
  | (n, count + 1, []) =>
    if allBits < n then none
    else some [⟨'=', allBits, n, if count + 1 < 5 then (n &&& 0o6000) ||| 0o1777 else allBits, .given⟩]
  | _ =>
    ((cutAt ',' text.toList).mapM fun (clause : List Char) =>
      let users := clause.takeWhile fun c => "ugoa".contains c
      changesFrom? (bitsOfUsers users) (clause.length + 1) (clause.drop users.length)).map List.flatten

/-- The permissions that a text gives to what has some. -/
def newMode? (mask : Nat) (isFolder : Bool) (text : String) (old : Nat) : Option Nat :=
  (modeChanges? text).map fun changes => changes.foldl (ModeChange.apply mask isFolder) old

/-- Permissions as ten letters, the kind of the thing first. -/
def modeText (kind : Char) (mode : Nat) : String :=
  let bit (n : Nat) (c : Char) : Char := if mode &&& n ≠ 0 then c else '-'
  let last (run special : Nat) (both only : Char) : Char :=
    if mode &&& special ≠ 0 then if mode &&& run ≠ 0 then both else only else bit run 'x'
  String.ofList [kind, bit 0o400 'r', bit 0o200 'w', last 0o100 0o4000 's' 'S', bit 0o40 'r', bit 0o20 'w',
    last 0o10 0o2000 's' 'S', bit 4 'r', bit 2 'w', last 1 0o1000 't' 'T']

/-- Permissions as octal digits. -/
def modeDigits (width mode : Nat) : String :=
  let digits := Nat.toDigits 8 mode
  String.ofList (List.replicate (width - digits.length) '0' ++ digits)

/-! ### Changing them -/

/-- An error that is not told if the tool is to be silent. -/
def failOn (silent : Bool) (text : String) : Tool Unit := if silent then setStatus 1 else complain text

/-- What an operand names with all that is below it, if asked for, and the texts of their paths. -/
def withBelow (d : Disk) (all : Bool) (text : String) (p : Path) (e : Entry) :
    List (String × Path × Entry) :=
  if !all || e ≠ .folder then [(text, p, e)]
  else
    let below := (d.entries.filter fun x => p.isPrefixOf x.1 && x.1 ≠ p).mergeSort fun a b =>
      !List.lex b.1 a.1 fun s t => decide (s < t)
    (text, p, e) :: below.map fun (q, f) =>
      ((if text.endsWith "/" then text else text ++ "/") ++ "/".intercalate (q.drop p.length), q, f)

def chmod : Arguments → Tool Unit := fun a => do
  let w ← get
  let (mode, names) := match a.value? 'e' with
    | some reference => (match w.disk.find w.folder reference with
      | .ok (p, e) => some (modeDigits 4 (w.disk.modeOf p e))
      | .error _ => none, a.operands)
    | none => (a.operands.head?, a.operands.tail)
  match mode, names with
  | none, _ => misuse "missing operand"
  | some m, [] => misuse ("missing operand after " ++ quote m)
  | some mode, names =>
    if (newMode? w.mask false mode 0).isNone then misuse ("invalid mode: " ++ quote mode)
    else
      names.forM fun s => do
        let w ← get
        match w.disk.find w.folder s with
        | .error fault =>
          failOn (a.has 'f') (if (w.disk.findName w.folder s).toBool then
            "cannot operate on dangling symlink " ++ quote s else ofFault ("cannot access " ++ quote s) fault)
        | .ok (p, e) =>
          (withBelow w.disk (a.has 'R') s p e).forM fun (text, q, f) => do
            let w ← get
            let old := w.disk.modeOf q f
            match f with
            | .link _ => return ()
            | _ =>
              let new := (newMode? w.mask (f == .folder) mode old).getD old
              set { w with disk := w.disk.setMode q new f }
              let words (m : Nat) : String :=
                modeDigits 4 m ++ " (" ++ String.ofList ((modeText '-' m).toList.drop 1) ++ ")"
              if new ≠ old then
                if a.has 'v' || a.has 'c' then
                  putLine ("mode of " ++ quote text ++ " changed from " ++ words old ++ " to " ++ words new)
              else if a.has 'v' then putLine ("mode of " ++ quote text ++ " retained as " ++ words old)
              let expected := (newMode? 0 (f == .folder) mode old).getD new
              if mode.startsWith "-" && (new &&& (allBits - expected)) ≠ 0 then
                let letters (m : Nat) : String := String.ofList ((modeText '-' m).toList.drop 1)
                complain (text ++ ": new permissions are " ++ letters new ++ ", not " ++ letters expected)

/-- The number of a user or a group, by its name or by itself. -/
def numberOf? (names : List (String × Nat)) (s : String) : Option Nat :=
  (names.lookup s) <|> (match scanDigits 10 0 s.toList with
    | (n, _ + 1, []) => some n
    | _ => none)

/-- Gives things to a user and a group; either may be missing. -/
def giveTo (a : Arguments) (user group : Option Nat) (names : List String) : Tool Unit :=
  names.forM fun s => do
    let w ← get
    match if a.has 'h' then w.disk.findName w.folder s else w.disk.find w.folder s with
    | .error fault => failOn (a.has 'f') (ofFault ("cannot access " ++ quote s) fault)
    | .ok (p, e) =>
      (withBelow w.disk (a.has 'R') s p e).forM fun (_, q, f) => modify fun w =>
        let n := Disk.node q f
        let (u, g) := w.disk.ownerOf n
        { w with disk := w.disk.setOwner n (user.getD u, group.getD g) }

def userNumbers : List (String × Nat) := Disk.users.map fun u => (u.name, u.number)

def chown : Arguments → Tool Unit := fun a => do
  match a.operands with
  | [] => misuse "missing operand"
  | [s] => misuse ("missing operand after " ++ quote s)
  | owner :: names =>
    let parts := (cutAt (if owner.contains ':' then ':' else '.') owner.toList).map String.ofList
    let user := parts.headD ""
    let group := parts.tail.headD ""
    let u := numberOf? userNumbers user
    let g := numberOf? Disk.groups group
    if !user.isEmpty ∧ u.isNone then complain ("invalid user: " ++ quote owner)
    else if !group.isEmpty ∧ g.isNone then complain ("invalid group: " ++ quote owner)
    else
      let g := if group.isEmpty ∧ parts.length > 1 then
          u.bind fun n => (Disk.users.find? fun x => x.number = n).map Disk.User.group else g
      giveTo a u g names

def chgrp : Arguments → Tool Unit := fun a => do
  match a.operands with
  | [] => misuse "missing operand"
  | [s] => misuse ("missing operand after " ++ quote s)
  | group :: names =>
    match numberOf? Disk.groups group with
    | none => complain ("invalid group: " ++ quote group)
    | some g => giveTo a none (some g) names

end PlanReuse.Script.Tool
