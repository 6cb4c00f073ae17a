import PlanReuse.Script.Tool.Basic

/-!
# Names of files

Tools that work on the texts of paths: their last names, the folders they lie in, and where links lead.
-/

namespace PlanReuse.Script.Tool

/-- A text without the slashes at its end, unless there is nothing else. -/
def dropSlashes (s : String) : String :=
  let t := (s.toList.reverse.dropWhile (· == '/')).reverse
  if t.isEmpty ∧ !s.isEmpty then "/" else String.ofList t

/-- The last name of a path. -/
def lastName (s : String) : String :=
  let t := (dropSlashes s).toList
  let name := (t.reverse.takeWhile (· ≠ '/')).reverse
  if name.isEmpty then String.ofList t else String.ofList name

/-- The folder that a path lies in. -/
def parentName (s : String) : String :=
  let t := (dropSlashes s).toList
  let front := (t.reverse.dropWhile (· ≠ '/')).reverse
  if front.isEmpty then "." else dropSlashes (String.ofList front)

/-- A name without a suffix, which may not be all of it. -/
def dropSuffix (name suffix : String) : String :=
  if name ≠ suffix ∧ name.endsWith suffix then (name.dropEnd suffix.length).toString else name

/-- A name behind a folder. -/
def inside (folder name : String) : String :=
  if folder.endsWith "/" then folder ++ name else folder ++ "/" ++ name

def basename : Arguments → Tool Unit := fun a => do
  let ending := if a.has 'z' then "\x00" else "\n"
  let each (suffix : String) (names : List String) : Tool Unit :=
    names.forM fun s => put (dropSuffix (lastName s) suffix ++ ending)
  match a.operands with
  | [] => misuse "missing operand"
  | s :: rest =>
    if a.has 'a' || a.has 's' then each ((a.value? 's').getD "") (s :: rest)
    else
      match rest with
      | [] => each "" [s]
      | [suffix] => each suffix [s]
      | _ :: t :: _ => misuse ("extra operand " ++ quote t)

def dirname : Arguments → Tool Unit := fun a =>
  wantOperand a (a.operands.forM fun s => put (parentName s ++ if a.has 'z' then "\x00" else "\n"))

/-- How strictly a path must exist: all of it, all but its last name, or nothing of it. -/
inductive Existence
  | all
  | parent
  | none

/-- Where a path leads if it need not exist: links are followed as far as there are any. -/
def leadsTo (w : Work) (s : String) : Path :=
  let rec go : Nat → Path → List String → Path
    | 0, at_, names => Path.tidy (at_ ++ names)
    | _ + 1, at_, [] => at_
    | fuel + 1, at_, ".." :: rest => go fuel at_.dropLast rest
    | fuel + 1, at_, name :: rest =>
      match w.disk.entryAt? (at_ ++ [name]) with
      | some (.link target) =>
        go fuel (if target.startsWith "/" then [] else at_) (Path.names target ++ rest)
      | _ => go fuel (at_ ++ [name]) rest
  go 200 (if s.startsWith "/" then [] else w.folder) (Path.names s)

/-- Where a name leads behind all links. -/
def resolved (w : Work) (e : Existence) (s : String) : Except DiskFault Path := do
  match e with
  | .none => return leadsTo w s
  | _ =>
    let p ← w.disk.locate w.folder s
    match e with
    | .all =>
      let _ ← w.disk.present p
    | _ => w.disk.checkParent p
    return p

def readlink : Arguments → Tool Unit := fun a => do
  let ending := if a.has 'n' && a.operands.length = 1 then "" else if a.has 'z' then "\x00" else "\n"
  wantOperand a (a.operands.forM fun s => do
    let w ← get
    let found : Except DiskFault String :=
      match a.lastOf "fem" with
      | some 'f' => (resolved w .parent s).map Path.text
      | some 'e' => (resolved w .all s).map Path.text
      | some _ => (resolved w .none s).map Path.text
      | none =>
        match w.disk.findName w.folder s with
        | .ok (_, .link target) => .ok target
        | .ok _ => .error .invalid
        | .error fault => .error fault
    match found with
    | .ok text => put (text ++ ending)
    | .error fault =>
      if a.lastOf "vqs" == some 'v' then say (ofFault s fault)
      setStatus 1)

/-- The path that leads from one place to another. -/
def pathFrom (source target : Path) : String :=
  let common := ((source.zip target).takeWhile fun (x, y) => x == y).length
  let names := List.replicate (source.length - common) ".." ++ target.drop common
  if names.isEmpty then "." else "/".intercalate names

def realpath : Arguments → Tool Unit := fun a => do
  let existence : Existence := match a.lastOf "emE" with
    | some 'e' => .all
    | some 'm' => .none
    | _ => .parent
  let place (w : Work) (s : String) : Except DiskFault Path :=
    if a.has 's' then .ok (Path.tidy ((if s.startsWith "/" then [] else w.folder) ++ Path.names s))
    else resolved w existence s
  wantOperand a (a.operands.forM fun s => do
    let w ← get
    match if s.isEmpty then .error DiskFault.notFound else place w s with
    | .ok p =>
      let base := (a.value? 'β').bind fun b => (place w b).toOption
      let start := ((a.value? 'τ').bind fun t => (place w t).toOption).or base
      let text := match start with
        | some t =>
          let inBase := match base with
            | some b => b.isPrefixOf p && b.isPrefixOf t
            | none => true
          if inBase then pathFrom t p else p.text
        | none => p.text
      put (text ++ if a.has 'z' then "\x00" else "\n")
    | .error fault => if a.has 'q' then setStatus 1 else complain (ofFault s fault))

/-- Says which names are not fit for files. -/
def pathchk : Arguments → Tool Unit := fun a =>
  wantOperand a (a.operands.forM fun s => do
    let w ← get
    let isBasic := a.has 'p' || a.has 'π'
    let isExtra := a.has 'P' || a.has 'π'
    let odd := s.toList.find? fun c => !(c.isAlphanum || "._-/".contains c)
    let found := w.disk.findName w.folder s
    let most := if isBasic then 14 else 255
    let mostAll := if isBasic then 256 else 4096
    let limit (n m : Nat) : String := "limit " ++ toString n ++ " exceeded by length " ++ toString m ++ " of file name "
    if isExtra && (Path.names s).any (·.startsWith "-") then
      complain ("leading '-' in a component of file name " ++ quote s)
    else if (isBasic || isExtra) && s.isEmpty then complain "empty file name"
    else if isBasic && odd.isSome then
      complain ("nonportable character " ++ quote (odd.getD ' ').toString ++ " in file name " ++ quote s)
    else
      match if isBasic then none else some found with
      | some (.error fault) =>
        if fault ≠ .notFound ∨ s.isEmpty then
          complain (ofFault (if s.isEmpty then quote s else s) fault)
          return ()
      | _ => pure ()
      if mostAll ≤ s.length then complain (limit (mostAll - 1) s.length ++ quote s)
      else
        match (Path.names s).find? fun n => most < n.length with
        | some n => complain (limit most n.length ++ "component " ++ quote n)
        | none => return ())

end PlanReuse.Script.Tool
