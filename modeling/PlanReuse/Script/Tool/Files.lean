import PlanReuse.Script.Tool.Names
import PlanReuse.Script.Tool.Permissions

/-!
# Files

Tools that make, copy, move and remove files and folders.
-/

namespace PlanReuse.Script.Tool

/-! ### Questions -/

/-- The next line of the input. -/
def takeLine : Tool String := modifyGet fun w =>
  (String.ofList (w.input.takeWhile (· ≠ '\n')), { w with input := (w.input.dropWhile (· ≠ '\n')).drop 1 })

/-- Asks a question; an answer that begins with a `y` is a yes. -/
def ask (question : String) : Tool Bool := do
  note ((← get).name ++ ": " ++ question ++ " ")
  let answer ← takeLine
  return answer.startsWith "y" || answer.startsWith "Y"

/-! ### Making -/

/-- Makes the folders of a path that are missing, each with permissions, and tells their names; or why one
cannot be made, and the path up to it. -/
def makeFolders (w : Work) (s : String) (mode : Nat) : Except (DiskFault × String) (Disk × List String) := do
  let start := if s.startsWith "/" then [] else w.folder
  let names := Path.names s
  let (d, _, made) ← names.zipIdx.foldlM (fun (d, at_, made) (name, i) => do
    let shown := (if s.startsWith "/" then "/" else "") ++ "/".intercalate (names.take (i + 1))
    let p ← match d.walk false Disk.linkLimit at_ [name] with
      | .ok p => .ok p
      | .error fault => .error (fault, shown)
    match d.entryAt? p with
    | some .folder => return (d, p, made)
    | some (.link target) =>
      match d.find at_ target with
      | .ok (q, .folder) => return (d, q, made)
      | .ok _ => throw (if i + 1 = names.length then .exists else .notDirectory, shown)
      | .error _ => throw (.exists, shown)
    | some _ => throw (if i + 1 = names.length then .exists else .notDirectory, shown)
    | none =>
      match d.createFolder p with
      | .ok d => return (d.setMode p mode .folder, p, made ++ [shown])
      | .error fault => throw (fault, shown)) (w.disk, start, [])
  return (d, made)

def mkdir : Arguments → Tool Unit := fun a =>
  wantOperand a do
    let w ← get
    let mode := match a.value? 'm' with
      | some m => newMode? w.mask true m 0o777
      | none => some (masked w 0o777)
    match mode with
    | none => complain ("invalid mode " ++ quote ((a.value? 'm').getD ""))
    | some mode =>
      a.operands.forM fun s => do
        let w ← get
        let result : Except (DiskFault × String) (Disk × List String) :=
          if s.isEmpty then .error (.notFound, s)
          else if a.has 'p' then do
            match w.disk.find w.folder s with
            | .ok (_, .folder) => return (w.disk, [])
            | _ =>
              let (d, made) ← makeFolders w s (masked w 0o777)
              match d.find w.folder s with
              | .ok (p, .folder) => return (d.setMode p mode .folder, made)
              | _ => return (d, made)
          else
            match (do
              let p ← w.disk.locateName w.folder (dropSlashes s)
              return ((← w.disk.createFolder p).setMode p mode .folder) : Except DiskFault Disk) with
            | .ok d => .ok (d, [s])
            | .error fault => .error (fault, s)
        match result with
        | .ok (d, made) =>
          set { w with disk := d }
          if a.has 'v' then made.forM fun m => putLine (w.name ++ ": created directory " ++ quote m)
        | .error (fault, shown) => complain (ofFault ("cannot create directory " ++ quote shown) fault)

def rmdir : Arguments → Tool Unit := fun a =>
  wantOperand a (a.operands.forM fun s => do
    let removed (s : String) : Tool Bool := do
      if a.has 'v' then putLine ("rmdir: removing directory, " ++ quote s)
      let w ← get
      let result : Except DiskFault Disk := do
        match ← w.disk.findName w.folder (dropSlashes s) with
        | (p, .folder) =>
          if lastName s = "." then throw .invalid
          if w.disk.names p ≠ [] then throw .notEmpty
          return w.disk.dropEntry p
        | _ => throw .notDirectory
      match result with
      | .ok d =>
        set { w with disk := d }
        return true
      | .error fault =>
        if !(a.has 'ι' && fault == .notEmpty) then complain (ofFault ("failed to remove " ++ quote s) fault)
        return false
    if ← removed s then
      if a.has 'p' then
        let parents := (List.range s.length).filterMap fun n =>
          let p := s.toList.take (s.length - 1 - n)
          if p.getLast? = some '/' then some (dropSlashes (String.ofList p)) else none
        let _ ← parents.foldlM (fun going p => if going && p != "/" then removed p else pure false) true)

/-- The names that a tool is to write, from its last operand: names in a folder, or a name of its own. -/
def targets (a : Arguments) : Tool (Option (List (String × String))) := do
  let w ← get
  let isFolder (s : String) : Bool := w.disk.isFolder w.folder s
  let into (folder : String) (sources : List String) : List (String × String) :=
    sources.map fun s => (s, inside folder (lastName s))
  match a.value? 't' with
  | some folder =>
    if isFolder folder then return some (into folder a.operands)
    else
      complain ("target directory " ++ quote folder ++ ": No such file or directory")
      return none
  | none =>
    match a.operands.reverse with
    | [] =>
      misuse "missing file operand"
      return none
    | [s] =>
      misuse ("missing destination file operand after " ++ quote s)
      return none
    | last :: sources =>
      if isFolder last && !a.has 'T' then return some (into last sources.reverse)
      else
        match sources with
        | [s] => return some [(s, last)]
        | _ =>
          complain ("target " ++ quote last ++
            (if (w.disk.find w.folder last).toBool then ": Not a directory"
              else ": No such file or directory"))
          return none

/-- Whether two names stand for one thing. -/
def isSame (w : Work) (s t : String) : Bool :=
  match w.disk.find w.folder s, w.disk.find w.folder t with
  | .ok (p, e), .ok (q, f) => p == q || (match e with | .file _ => e == f | _ => false)
  | _, _ => false

/-- Whether options say that a copy keeps times and permissions. -/
def keepsAll (a : Arguments) : Bool :=
  a.has 'a' || a.has 'p' || (a.values 'ρ').any fun v => v.isEmpty || v.contains "all" || v.contains "timestamps"

/-- Gives a thing the time, the permissions and the owner of another one. -/
def likeNode (d : Disk) (p : Path) (e : Entry) (q : Path) (f : Entry) : Disk :=
  let m := Disk.node p e
  let n := Disk.node q f
  ((d.setMode q (d.modeOf p e) f).setTime n (d.timeOf m)).setOwner n (d.ownerOf m)

/-- Copies a folder with all below it. -/
def copyTree (w : Work) (keeps : Bool) (p q : Path) : Disk :=
  let inTree := (w.disk.entries.filter fun e => p.isPrefixOf e.1).mergeSort fun a b =>
    decide (a.1.length ≤ b.1.length)
  let copied := inTree.foldl (fun d (r, e) =>
    let s := q ++ r.drop p.length
    match e, d.entryAt? s with
    | .folder, some .folder => d
    | .folder, _ => ((d.setEntry s .folder).stamp (.place s)).setMode s (masked w (d.modeOf r e)) .folder
    | .file n, some (.file m) =>
      d.setContent m { (d.content? n).getD (.ofText "" 0) with mode := ((d.content? m).map Content.mode).getD 0 }
    | .file n, _ =>
      let c := (d.content? n).getD (.ofText "" 0)
      d.createFile s { c with mode := masked w c.mode }
    | e, _ => d.setEntry s e) w.disk
  if keeps then
    inTree.reverse.foldl (fun d (r, e) =>
      let s := q ++ r.drop p.length
      match d.entryAt? s with
      | some f => likeNode d r e s f
      | none => d) copied
  else copied

/-- Puts aside what is under a name before another thing takes its place. -/
def backUp (a : Arguments) (target : String) : Tool Unit := do
  let w ← get
  let suffix := (a.value? 'S').getD "~"
  match w.disk.locateName w.folder target with
  | .ok q =>
    match w.disk.entryAt? q with
    | some .folder | none => return ()
    | some e =>
      let r := q.dropLast ++ [(q.getLast?.getD "") ++ suffix]
      let d := (w.disk.setEntry r e).setTime (Disk.node r e) (w.disk.timeOf (Disk.node q e))
      set { w with disk := d.dropEntry q }
  | .error _ => return ()

def wantsBackup (a : Arguments) : Bool :=
  (a.has 'b' || a.has 'β' || a.has 'S') && !((a.value? 'β').any fun v => v == "none" || v == "off")

/-- Whether a thing may take the place of what is under a name. -/
def mayReplace (a : Arguments) (source target : String) : Tool Bool := do
  let w ← get
  match w.disk.findName w.folder source, w.disk.findName w.folder target with
  | .ok (p, e), .ok (q, f) =>
    if a.has 'u' && decide (w.disk.timeOf (Disk.node p e) ≤ w.disk.timeOf (Disk.node q f)) then return false
    match a.lastOf "nif" with
    | some 'n' => return false
    | some 'i' => ask ("overwrite " ++ quote target ++ "?")
    | _ => return true
  | _, _ => return true

/-- Copies one name onto another. -/
def copyOne (a : Arguments) (source target : String) : Tool Unit := do
  let w ← get
  let recursive := a.has 'r' || a.has 'R' || a.has 'a'
  let kept := (recursive || a.has 'P' || a.has 'd') && !a.has 'L'
  let tell : Tool Unit := if a.has 'v' then putLine (quote source ++ " -> " ++ quote target) else pure ()
  match if kept then w.disk.findName w.folder source else w.disk.find w.folder source with
  | .error fault => complain (ofFault ("cannot stat " ++ quote source) fault)
  | .ok (p, .folder) =>
    if !recursive then complain ("-r not specified; omitting directory " ++ quote source)
    else
      match w.disk.locate w.folder target with
      | .error fault => complain (ofFault ("cannot create directory " ++ quote target) fault)
      | .ok q =>
        if p.isPrefixOf q then
          complain ("cannot copy a directory, " ++ quote source ++ ", into itself, " ++ quote target)
        else
          match w.disk.entryAt? q, w.disk.checkParent q with
          | some .folder, _ | none, .ok _ =>
            set { w with disk := copyTree w (keepsAll a) p q }
            if a.has 'v' then
              (withBelow w.disk true source p .folder).forM fun (text, r, _) =>
                putLine (quote text ++ " -> " ++ quote (target ++ String.join ((r.drop p.length).map ("/" ++ ·))))
          | some _, _ =>
            complain ("cannot overwrite non-directory " ++ quote target ++ " with directory " ++ quote source)
          | none, .error fault => complain (ofFault ("cannot create directory " ++ quote target) fault)
  | .ok (p, entry) =>
    if isSame w source target && !(a.has 'l' || a.has 's' || a.has 'δ' || wantsBackup a) then
      complain (quote source ++ " and " ++ quote target ++ " are the same file")
    else if w.disk.isFolder w.folder target then
      complain ("cannot overwrite directory " ++ quote target ++ " with non-directory")
    else if !(← mayReplace a source target) then return ()
    else
      if wantsBackup a then backUp a target
      if a.has 'δ' then
        modify fun w => match w.disk.locateName w.folder target with
          | .ok q => if (w.disk.entryAt? q).isSome then { w with disk := w.disk.dropEntry q } else w
          | .error _ => w
      let putEntry (kind : String) (e : Entry) : Tool Unit := do
        let made ← change ("cannot create " ++ kind ++ " " ++ quote target) fun w => do
          let q ← w.disk.locateName w.folder target
          w.disk.checkParent q
          if (w.disk.entryAt? q).isSome ∧ !a.has 'f' ∧ kind ≠ "symbolic link" then throw .exists
          if a.has 's' ∧ (w.disk.entryAt? q).isSome ∧ !a.has 'f' then throw .exists
          return w.disk.setEntry q e
        if made then tell
      match entry with
      | .link aim => putEntry "symbolic link" (.link aim)
      | .device "zero" | .device "random" | .device "urandom" => complain "error writing"
      | _ =>
        if a.has 'l' then putEntry "hard link" entry
        else if a.has 's' then putEntry "symbolic link" (.link source)
        else
          let c := ((w.disk.readFile w.folder source).toOption).getD (.ofText "" 0)
          let c ← match entry with
            | .device name => pure (.ofText (← deviceText endless name) c.mode)
            | _ => pure c
          let c := { if a.has 'α' then c.resize 0 else c with mode := masked w c.mode }
          let done ← change ("cannot create regular file " ++ quote target) fun w => do
            let d ← w.disk.storeFile w.folder target c
            match d.find w.folder target with
            | .ok (q, .file n) => return if keepsAll a then likeNode d p entry q (.file n) else d
            | _ => return d
          if done then tell

/-- The name of a copy below a folder, with all the folders of the source. -/
def withParents (a : Arguments) : Tool (Option (List (String × String))) := do
  match a.operands.reverse with
  | folder :: sources =>
    let pairs ← sources.reverse.filterMapM fun s => do
      let w ← get
      match makeFolders w (inside folder (parentName s)) (masked w 0o777) with
      | .ok (d, _) =>
        set { w with disk := d }
        return some (s, inside folder s)
      | .error (fault, _) =>
        complain (ofFault ("cannot make directory " ++ quote (inside folder (parentName s))) fault)
        return none
    return some pairs
  | [] =>
    misuse "missing file operand"
    return none

def cp : Arguments → Tool Unit := fun a => do
  match ← if a.has 'π' then withParents a else targets a with
  | none => return ()
  | some pairs => pairs.forM fun (s, t) => copyOne a s t

/-- Moves one name to another. -/
def moveOne (a : Arguments) (source target : String) : Tool Unit := do
  let w ← get
  match w.disk.findName w.folder source with
  | .error fault => complain (ofFault ("cannot stat " ++ quote source) fault)
  | .ok (p, entry) =>
    let about := "cannot move " ++ quote source ++ " to " ++ quote target
    match w.disk.locateName w.folder (if entry = .folder then dropSlashes target else target) with
    | .error fault => complain (ofFault about fault)
    | .ok q =>
      let existing := w.disk.entryAt? q
      let sameFile := match entry with
        | .file _ => existing == some entry
        | _ => false
      if p = q || sameFile then
        complain (quote source ++ " and " ++ quote target ++ " are the same file")
      else if entry = .folder && p.isPrefixOf q then
        complain ("cannot move " ++ quote source ++ " to a subdirectory of itself, " ++ quote target)
      else
        let put : Tool Unit := do
          if !(← mayReplace a source target) then return ()
          if wantsBackup a then backUp a target
          let w ← get
          match w.disk.checkParent q with
          | .error fault => complain (ofFault about fault)
          | .ok _ =>
            let d := if (w.disk.entryAt? q).isSome then w.disk.dropEntry q else w.disk
            set { w with disk := d.moveTree p q }
            if a.has 'v' then putLine ("renamed " ++ quote source ++ " -> " ++ quote target)
        match existing, entry with
        | some .folder, .folder =>
          if w.disk.names q ≠ [] then complain (ofFault about .notEmpty) else put
        | some .folder, _ =>
          complain ("cannot overwrite directory " ++ quote target ++ " with non-directory")
        | some _, .folder =>
          complain ("cannot overwrite non-directory " ++ quote target ++ " with directory " ++ quote source)
        | none, .folder => put
        | none, _ =>
          if target.endsWith "/" then complain (ofFault about .notDirectory) else put
        | _, _ => put

def mv : Arguments → Tool Unit := fun a => do
  match ← targets a with
  | none => return ()
  | some pairs => pairs.forM fun (s, t) => moveOne a s t

def ln : Arguments → Tool Unit := fun a => do
  let a := match a.operands with
    | [s] => if a.has 'T' then a else { a with operands := [s, "."] }
    | _ => a
  let w ← get
  let keepsLink := a.has 'n' && a.operands.length = 2 && (match w.disk.findName w.folder (a.operands.getLastD "") with
    | .ok (_, .link _) => true
    | _ => false)
  match ← targets (if keepsLink then { a with options := ('T', "") :: a.options } else a) with
  | none => return ()
  | some pairs =>
    pairs.forM fun (source, target) => do
      let kind := if a.has 's' then "symbolic link " else "hard link "
      let w ← get
      let about := "failed to create " ++ kind ++ quote target ++ if a.has 's' then "" else " => " ++ quote source
      let put (e : Entry) : Tool Unit := do
        if a.has 'i' ∧ (w.disk.findName w.folder target).toBool then
          if !(← ask ("replace " ++ quote target ++ "?")) then return ()
        if wantsBackup a then backUp a target
        let made ← change (if a.has 's' then about else "failed to create hard link " ++ quote target) fun w => do
          let q ← w.disk.locateName w.folder target
          w.disk.checkParent q
          match w.disk.entryAt? q with
          | none => return w.disk.setEntry q e
          | some .folder => throw .exists
          | some _ => if a.has 'f' || a.has 'i' then return w.disk.setEntry q e else throw .exists
        if made ∧ a.has 'v' then
          let shown := match e with
            | .link aim => aim
            | _ => source
          putLine (quote target ++ (if a.has 's' then " -> " else " => ") ++ quote shown)
      if a.has 's' then
        let aim := if a.has 'r' then
            match w.disk.locate w.folder source, w.disk.locateName w.folder target with
            | .ok p, .ok q => pathFrom q.dropLast p
            | _, _ => source
          else source
        if isSame w source target ∧ a.has 'f' ∧ source = target then
          complain (quote source ++ " and " ++ quote target ++ " are the same file")
        else put (.link aim)
      else
        match if a.has 'L' then w.disk.find w.folder source else w.disk.findName w.folder source with
        | .error fault => complain (ofFault ("failed to access " ++ quote source) fault)
        | .ok (_, .folder) => complain (source ++ ": hard link not allowed for directory")
        | .ok (_, e) =>
          if isSame w source target ∧ a.has 'f' then
            complain (quote source ++ " and " ++ quote target ++ " are the same file")
          else put e

/-- Gives a file another name. -/
def link : Arguments → Tool Unit := fun a => do
  match a.operands with
  | [s, t] =>
    let _ ← change ("cannot create link " ++ quote t ++ " to " ++ quote s) fun w => do
      let (_, e) ← w.disk.findName w.folder s
      let q ← w.disk.locateName w.folder t
      w.disk.checkParent q
      if (w.disk.entryAt? q).isSome then throw .exists
      return w.disk.setEntry q e
  | [s] => misuse ("missing operand after " ++ quote s)
  | [] => misuse "missing operand"
  | _ :: _ :: t :: _ => misuse ("extra operand " ++ quote t)

/-- Copies files to a place, with permissions, or makes folders. -/
def install : Arguments → Tool Unit := fun a => do
  let w ← get
  match newMode? 0 false ((a.value? 'm').getD "755") 0 with
  | none => complain ("invalid mode " ++ quote ((a.value? 'm').getD ""))
  | some mode =>
    if a.has 'd' then
      wantOperand a (a.operands.forM fun s => do
        let w ← get
        match makeFolders w s 0o755 with
        | .ok (d, made) =>
          let d := match d.find w.folder s with
            | .ok (p, .folder) => d.setMode p mode .folder
            | _ => d
          set { w with disk := d }
          if a.has 'v' then made.forM fun m => putLine (w.name ++ ": creating directory " ++ quote m)
        | .error (fault, shown) => complain (ofFault ("cannot create directory " ++ quote shown) fault))
    else
      if a.has 'D' then
        let folder := match a.value? 't' with
          | some t => some t
          | none => a.operands.getLast?.map parentName
        match folder.map fun f => makeFolders w f 0o755 with
        | some (.ok (d, _)) => set { w with disk := d }
        | some (.error (fault, shown)) => complain (ofFault ("cannot create directory " ++ quote shown) fault)
        | none => pure ()
      match ← targets a with
      | none => return ()
      | some pairs =>
        pairs.forM fun (s, t) => do
          let w ← get
          match w.disk.find w.folder s with
          | .error fault => complain (ofFault ("cannot stat " ++ quote s) fault)
          | .ok (_, .folder) => complain ("omitting directory " ++ quote s)
          | .ok (p, e) =>
            if isSame w s t then complain (quote s ++ " and " ++ quote t ++ " are the same file")
            else
              if wantsBackup a then backUp a t
              let c := (w.disk.readFile w.folder s).toOption.getD (.ofText "" 0)
              let done ← change ("cannot create regular file " ++ quote t) fun w => do
                let d ← w.disk.storeFile w.folder t { c with mode }
                match d.find w.folder t with
                | .ok (q, f) =>
                  let d := d.setMode q mode f
                  return if a.has 'p' then d.setTime (Disk.node q f) (d.timeOf (Disk.node p e)) else d
                | .error _ => return d
              if done ∧ a.has 'v' then putLine (quote s ++ " -> " ++ quote t)

/-! ### Removing -/

/-- What a thing is, in a question. -/
def kindInWords (d : Disk) : Entry → String
  | .folder => "directory"
  | .file n => if (d.content? n).any fun c => c.size = 0 then "regular empty file" else "regular file"
  | .link _ => "symbolic link"
  | .device _ => "character special file"
  | .program _ => "regular file"

/-- Removes a thing with all below it, what is below first; each may be asked about. -/
def removeTree (asks tells : Bool) : Nat → String → Path → Entry → Tool Bool
  | 0, _, _, _ => return false
  | fuel + 1, text, p, e => do
    let w ← get
    let proceed ← match e with
      | .folder =>
        if asks ∧ w.disk.names p ≠ [] then ask ("descend into directory " ++ quote text ++ "?") else pure true
      | _ => pure true
    if !proceed then return false
    let mut all := true
    if e = .folder then
      for n in w.disk.names p do
        match (← get).disk.entryAt? (p ++ [n]) with
        | some f => if !(← removeTree asks tells fuel (inside text n) (p ++ [n]) f) then all := false
        | none => pure ()
    if !all then return false
    let proceed ← if asks then
        ask ("remove " ++ kindInWords (← get).disk e ++ " " ++ quote text ++ "?")
      else pure true
    if !proceed then return false
    modify fun w => { w with disk := w.disk.dropEntry p }
    if tells then putLine ((if e = .folder then "removed directory " else "removed ") ++ quote text)
    return true

/-- Removes what operands name. -/
def removeAll (a : Arguments) (force asks recursive : Bool) : Tool Unit :=
  a.operands.forM fun s => do
    let w ← get
    let about := "cannot remove " ++ quote s
    match w.disk.findName w.folder s with
    | .error .notFound => if !force then complain (ofFault about .notFound)
    | .error .notDirectory => if !force then complain (ofFault about .notDirectory)
    | .error fault => complain (ofFault about fault)
    | .ok (p, .folder) =>
      if !recursive then
        if a.has 'd' then
          if w.disk.names p = [] then
            let _ ← removeTree asks (a.has 'v') 1 s p .folder
          else complain (ofFault about .notEmpty)
        else complain (ofFault about .isDirectory)
      else if lastName s = "." ∨ lastName s = ".." then
        complain ("refusing to remove '.' or '..' directory: skipping " ++ quote s)
      else if p = [] then complain "it is dangerous to operate recursively on '/'"
      else if asks || a.has 'v' then
        let _ ← removeTree asks (a.has 'v') (w.disk.entries.length + 1) s p .folder
      else set { w with disk := w.disk.dropTree p }
    | .ok (p, e) =>
      let _ ← removeTree asks (a.has 'v') 1 s p e

def rm : Arguments → Tool Unit := fun a => do
  let force := a.lastOf "fiI" == some 'f'
  let asks := a.lastOf "fiI" == some 'i'
  let recursive := a.has 'r' || a.has 'R'
  if a.operands.isEmpty then
    if !a.has 'f' then misuse "missing operand"
  else if a.lastOf "fiI" == some 'I' && (recursive || 3 < a.operands.length) then
    let count := toString a.operands.length
    let what := count ++ (if a.operands.length = 1 then " argument" else " arguments")
    if ← ask ("remove " ++ what ++ (if recursive then " recursively?" else "?")) then
      removeAll a force false recursive
  else removeAll a force asks recursive

/-- Takes one name from a file. -/
def unlink : Arguments → Tool Unit := fun a => do
  match a.operands with
  | [s] =>
    let _ ← change ("cannot unlink " ++ quote s) fun w => do
      match ← w.disk.findName w.folder s with
      | (_, .folder) => throw .isDirectory
      | (p, _) => return w.disk.dropEntry p
  | [] => misuse "missing operand"
  | _ :: t :: _ => misuse ("extra operand " ++ quote t)

/-- Writes over files, and removes them if asked to. -/
def shred : Arguments → Tool Unit := fun a =>
  if a.operands.isEmpty then misuse "missing file operand"
  else
    a.operands.forM fun s => do
      let w ← get
      match w.disk.find w.folder s with
      | .ok (p, .file n) =>
        let size := ((w.disk.content? n).map Content.size).getD 0
        let mode := ((w.disk.content? n).map Content.mode).getD 0
        let size := if a.has 'x' then size else (size + 4095) / 4096 * 4096
        let d := w.disk.setContent n ⟨"", size, mode⟩
        set { w with disk := if a.has 'u' then d.dropEntry p else d }
      | .ok _ => complain (s ++ ": invalid file type")
      | .error fault => complain (ofFault (s ++ ": failed to open for writing") fault)

/-! ### New names and sizes -/

/-- Makes a file or a folder under a name that is new: the last row of `X` in a pattern is replaced. -/
def mktemp : Arguments → Tool Unit := fun a => do
  let w ← get
  let given := a.operands.head?.getD "tmp.XXXXXXXXXX"
  let usesFolder := a.operands.isEmpty || a.has 't' || a.has 'p' || a.has 'τ'
  if 1 < a.operands.length then
    misuse "too many templates"
    return ()
  let pattern := given ++ (a.value? 'σ').getD ""
  let tail := match a.value? 'σ' with
    | some s => s
    | none => String.ofList (given.toList.reverse.takeWhile (· ≠ 'X')).reverse
  let stem := pattern.toList.take (pattern.length - tail.length)
  let holes := (stem.reverse.takeWhile (· == 'X')).length
  if a.has 'σ' && given.toList.getLast? ≠ some 'X' then
    complain ("with --suffix, template " ++ quote given ++ " must end in X")
  else if tail.contains '/' then complain ("invalid suffix " ++ quote tail ++ ", contains directory separator")
  else if holes < 3 then complain ("too few X's in template " ++ quote pattern)
  else if usesFolder && a.has 't' && pattern.contains '/' then
    complain ("invalid template, " ++ quote pattern ++ ", contains directory separator")
  else if usesFolder && !a.has 't' && pattern.startsWith "/" then
    complain ("invalid template, " ++ quote pattern ++ "; with --tmpdir, it may not be absolute")
  else
    let digits := (toString (w.disk.next + w.disk.entries.length)).toList
    let middle := List.replicate (holes - digits.length) 'a' ++ digits.take holes
    let name := String.ofList (stem.take (stem.length - holes) ++ middle) ++ tail
    let fromEnvironment? := (w.environment.lookup "TMPDIR").filter (· ≠ "")
    let chosen? := ((a.value? 'p').or (a.value? 'τ')).filter (· ≠ "")
    let folder :=
      (if a.has 't' then fromEnvironment?.or chosen? else chosen?.or fromEnvironment?).getD "/tmp"
    let placed (name : String) : String := if usesFolder then inside folder name else name
    let kind := if a.has 'd' then "directory" else "file"
    let result : Except DiskFault Disk := do
      if a.has 'u' then return w.disk
      else if a.has 'd' then
        let p ← w.disk.locateName w.folder (placed name)
        return (← w.disk.createFolder p).setMode p 0o700 .folder
      else return (← w.disk.openFile w.folder (placed name) 0o600).2
    match result with
    | .ok d =>
      set { w with disk := d }
      putLine (placed name)
    | .error fault =>
      if a.has 'q' then setStatus 1
      else complain (ofFault ("failed to create " ++ kind ++ " via template " ++ quote (placed pattern)) fault)

/-- How a new size is found from an old one. -/
inductive Resizing
  | exactly
  | by_
  | atMost
  | atLeast
  | roundedDown
  | roundedUp
deriving DecidableEq

namespace Resizing

/-- The new size, if a number says how large. -/
def apply (r : Resizing) (n : Int) (old : Nat) : Nat :=
  match r with
  | .exactly => n.toNat
  | .by_ => (old + n).toNat
  | .atMost => (min (old : Int) n).toNat
  | .atLeast => (max (old : Int) n).toNat
  | .roundedDown => (old - old % n).toNat
  | .roundedUp => (old + (-(old : Int)) % n).toNat

/-- Reads how a size changes; otherwise what is wrong with the text, and whether help is offered. -/
def ofText? (text : String) : Except (Bool × String) (Resizing × Int) :=
  let s := text.toList.dropWhile isSpace
  let bound? := match s with
    | '<' :: _ => some atMost
    | '>' :: _ => some atLeast
    | '/' :: _ => some roundedDown
    | '%' :: _ => some roundedUp
    | _ => none
  let s := ((if bound?.isSome then s.drop 1 else s)).dropWhile isSpace
  let isSigned := s.head? == some '+' || s.head? == some '-'
  let (negative, digits) := splitSign s
  let fault (reason : String) : Except (Bool × String) (Resizing × Int) :=
    .error (false, "Invalid number: " ++ quote (String.ofList s) ++ reason)
  if bound?.isSome && isSigned then .error (true, "multiple relative modifiers specified")
  else
    match sizeOf? (String.ofList (digits.map fun c => if c = 'g' ∨ c = 't' then c.toUpper else c)) with
    | none => fault ""
    | some n =>
      if digits.contains 'b' then fault ""
      else if Nat.pow 2 63 ≤ n then fault ": Value too large for defined data type"
      else if n = 0 ∧ (bound? = some roundedDown ∨ bound? = some roundedUp) then .error (false, "division by zero")
      else .ok (bound?.getD (if isSigned then by_ else exactly), if negative then -(n : Int) else n)

end Resizing

def truncate : Arguments → Tool Unit := fun a => do
  let w ← get
  let sizes := (a.values 's').map Resizing.ofText?
  let wrong := sizes.filterMap fun | .error e => some e | .ok _ => none
  let size? := sizes.getLast?.bind Except.toOption
  match wrong with
  | (true, text) :: _ => misuse text
  | (false, text) :: _ => complain text
  | [] =>
    if size?.isNone ∧ !a.has 'r' then misuse "you must specify either '--size' or '--reference'"
    else if a.has 'r' ∧ size?.any fun r => r.1 == .exactly then
      misuse "you must specify a relative '--size' with '--reference'"
    else if a.has 'o' ∧ size?.isNone then misuse "'--io-blocks' was specified but '--size' was not"
    else if a.operands.isEmpty then misuse "missing file operand"
    else
      let base ← match a.value? 'r' with
        | none => pure (.ok none)
        | some name => pure ((w.disk.readFile w.folder name).map fun c => some c.size)
      match base with
      | .error fault => complain (ofFault ("cannot stat " ++ quote ((a.value? 'r').getD "")) fault)
      | .ok base =>
        a.operands.forM fun s => do
          let w ← get
          let isThere := (w.disk.find w.folder s).toBool
          if !isThere ∧ a.has 'c' then return ()
          let old := ((w.disk.readFile w.folder s).toOption).getD (.ofText "" (masked w 0o666))
          let from_ := base.getD old.size
          let size := match size? with
            | some (r, n) => r.apply (if a.has 'o' then 4096 * n else n) from_
            | none => from_
          match w.disk.find w.folder s with
          | .ok (_, .device _) =>
            complain (ofFault ("failed to truncate " ++ quote s ++ " at " ++ toString size ++ " bytes") .invalid)
          | _ =>
            let _ ← change ("cannot open " ++ quote s ++ " for writing") fun w =>
              w.disk.storeFile w.folder s (old.resize size)

end PlanReuse.Script.Tool
