import PlanReuse.Script.Command
import PlanReuse.Script.Disk

/-!
# The state of a script

A script runs as a process: it has variables, parameters, streams and a folder of its own. The disk and the
open streams are shared with the processes that it starts.
-/

namespace PlanReuse.Script

/-! ### What processes share -/

/-- Where a stream leads. -/
inductive Endpoint
  /-- Nothing is read from it, and what is written is lost. -/
  | nowhere
  | file (number : Nat)
  /-- A text that is read from the front, as far as it is left. -/
  | source (rest : List Char)
  /-- A text that grows at its end. -/
  | sink (text : String)
  | zeros
  /-- There is no room for what is written. -/
  | full
  | folder
deriving DecidableEq

/-- An open stream and the place in it. -/
structure Stream where
  endpoint : Endpoint
  position : Nat
  append : Bool

/-! ### Tables of names -/

/-- Puts something under a name: in the place of what was there, or behind all others. -/
def putNamed {α : Type} (name : String) (a : α) : List (String × α) → List (String × α)
  | [] => [(name, a)]
  | (n, b) :: r => if n = name then (n, a) :: r else (n, b) :: putNamed name a r

theorem lookup_putNamed {α : Type} (name key : String) (a : α) (l : List (String × α)) :
    (putNamed name a l).lookup key = if key = name then some a else l.lookup key := by
  induction l with
  | nil =>
    rw [putNamed, List.lookup_cons]
    by_cases h : key = name
    · rw [beq_iff_eq.mpr h, if_pos h]
    · rw [beq_eq_false_iff_ne.mpr h, if_neg h]
  | cons e r ih =>
    obtain ⟨n, b⟩ := e
    by_cases h : n = name
    · subst h
      rw [putNamed, if_pos rfl, List.lookup_cons, List.lookup_cons]
      by_cases hk : key = n
      · rw [beq_iff_eq.mpr hk, if_pos hk]
      · rw [beq_eq_false_iff_ne.mpr hk, if_neg hk]
    · rw [putNamed, if_neg h, List.lookup_cons, List.lookup_cons, ih]
      by_cases hk : key = n
      · rw [beq_iff_eq.mpr hk]
        exact (if_neg fun e => h (hk.symm.trans e)).symm
      · rw [beq_eq_false_iff_ne.mpr hk]

/-- The slot of a name in a table; lists of names are in the order of their slots. -/
def slotOf (name : String) : Nat :=
  match name.toList with
  | [] => 0
  | c :: r => (16 * c.toNat + (c :: r).foldl (fun n d => n + d.toNat) 0) % 39

/-- Names in the order of their slots; those of one slot keep their order. -/
def bySlot {α : Type} (l : List (String × α)) : List (String × α) :=
  l.mergeSort fun a b => decide (slotOf a.1 ≤ slotOf b.1)

structure World where
  disk : Disk
  streams : Array Stream
  /-- The texts that scripts hold for their commands. -/
  documents : Array Word
  /-- The number of the next process. -/
  nextProcess : Nat
  /-- Signals that have not reached their process yet, with the number of the process, the latest last. -/
  signals : List (Nat × Nat)

/-! ### Processes -/

structure Variable where
  /-- None is declared but not set. -/
  value : Option String
  exported : Bool
  fixed : Bool

/-- What happens after a command. -/
inductive Flow
  | go
  /-- Some loops are left; the last of them goes on with its next round if `again`. -/
  | leaveLoops (count : Nat) (again : Bool)
  | leaveFunction
  | exit
  | killed (signal : Nat)
deriving DecidableEq

structure Process where
  /-- The number by which signals are sent to it. -/
  number : Nat
  /-- The numbers of the processes that have led to it, the nearest first. -/
  ancestors : List Nat
  /-- The number of the shell that it is a part of; a shell is a part of itself. -/
  shellNumber : Nat
  folder : Path
  /-- The folder as the script came to it, links included. -/
  route : String
  name : String
  parameters : List String
  bindings : List (String × Variable)
  /-- The variables that programs are given, if another program has changed them since the shell. -/
  given : Option (List (String × String))
  functions : List (String × Command)
  /-- Texts that names of commands stand for when a script is read. -/
  aliases : List (String × String)
  /-- The streams, by their numbers. -/
  descriptors : List (Nat × Nat)
  /-- The options, by their letters. -/
  options : List Char
  /-- What is done on a signal; zero is the end of the process. -/
  traps : List (Nat × String)
  status : Nat
  flow : Flow
  /-- The loops that are running. -/
  loops : Nat
  /-- The variables that functions have hidden, a list for each function. -/
  hidden : List (List (String × Option Variable))
  lastJob : Option Nat
  /-- The line of the script. -/
  line : Nat
  /-- The status of the last command whose output was taken. -/
  outputStatus : Nat
  /-- The permissions that new files do not get. -/
  mask : Nat
  /-- The status before the trap that is being run. -/
  trapped : Option Nat
  /-- How many letters of an argument have been taken for options. -/
  lettersTaken : Nat

/-- A command in the background. It runs when it is waited for. -/
structure Job where
  number : Nat
  command : Command
  start : Process
  status : Option Nat

structure Shell extends Process where
  world : World
  jobs : List Job

namespace Shell

/-! ### Variables -/

def variableAt? (sh : Shell) (name : String) : Option Variable := sh.bindings.lookup name

def value? (sh : Shell) (name : String) : Option String := (sh.variableAt? name).bind Variable.value

def setVariable (sh : Shell) (name : String) (v : Variable) : Shell :=
  { sh with bindings := putNamed name v sh.bindings }

def dropVariable (sh : Shell) (name : String) : Shell :=
  { sh with bindings := sh.bindings.filter (·.1 ≠ name) }

def isFixed (sh : Shell) (name : String) : Bool := (sh.variableAt? name).any Variable.fixed

/-- Gives a variable a value. -/
def assign (sh : Shell) (name value : String) : Shell :=
  let v := (sh.variableAt? name).getD ⟨none, sh.options.contains 'a', false⟩
  sh.setVariable name { v with value := some value }

/-- The variables that programs are given. -/
def environment (sh : Shell) : List (String × String) :=
  sh.given.getD (bySlot (sh.bindings.filterMap fun (name, v) =>
    if v.exported then v.value.map fun x => (name, x) else none))

/-- The characters that separate fields. -/
def separators (sh : Shell) : List Char := ((sh.value? "IFS").getD " \t\n").toList

def has (sh : Shell) (option : Char) : Bool := sh.options.contains option

/-! ### Streams -/

def stream? (sh : Shell) (descriptor : Nat) : Option Nat := sh.descriptors.lookup descriptor

def setDescriptor (sh : Shell) (descriptor stream : Nat) : Shell :=
  { sh with descriptors := (descriptor, stream) :: sh.descriptors.filter (·.1 ≠ descriptor) }

def close (sh : Shell) (descriptor : Nat) : Shell :=
  { sh with descriptors := sh.descriptors.filter (·.1 ≠ descriptor) }

/-- Opens a stream. -/
def openStream (sh : Shell) (s : Stream) : Nat × Shell :=
  (sh.world.streams.size, { sh with world.streams := sh.world.streams.push s })

def setDisk (sh : Shell) (d : Disk) : Shell := { sh with world.disk := d }

/-- A text with another one written at a place in it. -/
def overwrite (old : String) (position : Nat) (new : String) : String :=
  let size := old.length
  if size ≤ position then old ++ String.ofList (List.replicate (position - size) (Char.ofNat 0)) ++ new
  else
    let cs := old.toList
    String.ofList (cs.take position) ++ new ++ String.ofList (cs.drop (position + new.length))

/-- Writes to a stream; false if it takes nothing. -/
def write (sh : Shell) (descriptor : Nat) (text : String) : Bool × Shell :=
  match sh.stream? descriptor with
  | none => (text.isEmpty, sh)
  | some i =>
    match sh.world.streams[i]? with
    | none => (text.isEmpty, sh)
    | some s =>
      match s.endpoint with
      | .nowhere => (true, sh)
      | .zeros => (true, sh)
      | .source _ => (text.isEmpty, sh)
      | .folder => (text.isEmpty, sh)
      | .full => (text.isEmpty, sh)
      | .sink old =>
        (true, { sh with
          world.streams := sh.world.streams.setIfInBounds i { s with endpoint := .sink (old ++ text) } })
      | .file n =>
        match sh.world.disk.content? n with
        | none => (true, sh)
        | some c =>
          let position := if s.append then c.text.length else s.position
          let new := overwrite c.text position text
          (true, { sh with
            world.disk := sh.world.disk.setContent n (.ofText new c.mode)
            world.streams :=
              sh.world.streams.setIfInBounds i { s with position := position + text.length } })

/-- What is left to read of a stream. -/
def unread (sh : Shell) (descriptor : Nat) : List Char :=
  match (sh.stream? descriptor).bind fun i => sh.world.streams[i]? with
  | none => []
  | some s =>
    match s.endpoint with
    | .source rest => rest
    | .file n =>
      match sh.world.disk.content? n with
      | some c => c.text.toList.drop s.position
      | none => []
    | _ => []

/-- Moves on in a stream by some characters. -/
def consume (sh : Shell) (descriptor count : Nat) : Shell :=
  match sh.stream? descriptor with
  | none => sh
  | some i =>
    match sh.world.streams[i]? with
    | none => sh
    | some s =>
      let s :=
        match s.endpoint with
        | .source rest => { s with endpoint := .source (rest.drop count) }
        | _ => { s with position := s.position + count }
      { sh with world.streams := sh.world.streams.setIfInBounds i s }

/-! ### Complaints and endings -/

/-- Says something about the line at hand. -/
def complain (sh : Shell) (text : String) : Shell :=
  (sh.write 2 (sh.name ++ ": " ++ decimal sh.line ++ ": " ++ text ++ "\n")).2

def withStatus (sh : Shell) (status : Nat) : Shell := { sh with status }

/-- Ends the process. -/
def exitWith (sh : Shell) (status : Nat) : Shell := { sh with status := status % 256, flow := .exit }

/-- Ends the process with a complaint. -/
def fail (sh : Shell) (text : String) : Shell := (sh.complain text).exitWith 2

def isGoing (sh : Shell) : Bool := sh.flow == .go

/-- Writes what a command of the shell itself has to say, and takes over its status. -/
def report (sh : Shell) (command text : String) (status : Nat) : Shell :=
  match sh.write 1 text with
  | (true, sh) => sh.withStatus status
  | (false, sh) =>
    (sh.complain (command ++ ": " ++ command ++ ": I/O error")).withStatus (status ||| 1)

theorem value?_assign (sh : Shell) (name value : String) :
    (sh.assign name value).value? name = some value := by
  simp [assign, value?, variableAt?, setVariable, lookup_putNamed]

/-! ### Parameters -/

/-- The value of a parameter that has one text. -/
def parameter? (sh : Shell) (name : String) : Option String :=
  match name with
  | "#" => some (decimal sh.parameters.length)
  | "?" => some (decimal sh.status)
  | "$" => some (decimal sh.shellNumber)
  | "!" => sh.lastJob.map fun n => decimal n
  | "-" => some (String.ofList sh.options.reverse)
  | "0" => some sh.name
  | _ =>
    match name.toNat? with
    | some n => sh.parameters[n - 1]?
    | none => sh.value? name

end Shell

end PlanReuse.Script
