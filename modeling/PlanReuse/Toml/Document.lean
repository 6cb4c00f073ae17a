import PlanReuse.Toml.Value

/-!
# Documents from lines

A document is put together line by line. A header opens a table; a key puts a value into the open table,
or, if it is dotted, into a table inside it. No table is defined twice: neither by two headers, nor by a
header and a dotted key, and nothing is added to a table between braces.
-/

namespace PlanReuse.Toml

/-- Puts a value under a key that may be in use. -/
def setEntry (es : Entries) (key : String) (v : Value) : Entries :=
  match es with
  | [] => [(key, v)]
  | (k, w) :: es => if k = key then (k, v) :: es else (k, w) :: setEntry es key v

/-- A change of a table; none if the document is not allowed to make it. -/
abbrev Change := Origin → Entries → Option (Origin × Entries)

/-- Whether a path may lead through a table of some origin. A dotted key may not lead through a table
that has a header. -/
def Origin.isOpen (o : Origin) (dotted : Bool) : Bool :=
  match o with
  | .braces => false
  | .header => !dotted
  | .implied | .dotted => true

/-- Changes the table at the end of a path. Tables on the way that are missing are made; of collected
tables the last one is meant. -/
def changeAt (dotted : Bool) (f : Change) : List String → Change
  | [], o, es => f o es
  | k :: ks, o, es =>
    match es.lookup k with
    | none =>
      (changeAt dotted f ks (if dotted then .dotted else .implied) []).map fun (o', es') =>
        (o, setEntry es k (.table o' es'))
    | some (.table o' es') =>
      if o'.isOpen dotted then
        (changeAt dotted f ks o' es').map fun (o', es') => (o, setEntry es k (.table o' es'))
      else none
    | some (.tables ts) =>
      match ts.getLast? with
      | some (.table o' es') =>
        (changeAt dotted f ks o' es').map fun (o', es') =>
          (o, setEntry es k (.tables (ts.dropLast ++ [.table o' es'])))
      | _ => none
    | some _ => none

/-- Adds a value under a key not in use. A plain key never ends in a table made by dotted keys, and a
dotted key always does. -/
def addEntry (isDotted : Bool) (key : String) (v : Value) : Change := fun o es =>
  if (o == .dotted) != isDotted then none
  else if (es.lookup key).isSome then none
  else some (o, es ++ [(key, v)])

/-- Adds a value under a dotted or plain key. -/
def addAt (path : List String) (key : String) (v : Value) : Change :=
  changeAt (!path.isEmpty) (addEntry (!path.isEmpty) key v) path

/-- Opens a table; one that so far is only implied may be opened. -/
def openTable (key : String) : Change := fun o es =>
  match es.lookup key with
  | none => some (o, es ++ [(key, .table .header [])])
  | some (.table .implied es') => some (o, setEntry es key (.table .header es'))
  | some _ => none

/-- Opens one more of a collection of tables. -/
def openCollected (key : String) : Change := fun o es =>
  match es.lookup key with
  | none => some (o, es ++ [(key, .tables [.table .header []])])
  | some (.tables ts) => some (o, setEntry es key (.tables (ts ++ [.table .header []])))
  | some _ => none

/-- A document in the making: its table, and the path of the open one. -/
structure Draft where
  origin : Origin
  entries : Entries
  current : List String

namespace Draft

def empty : Draft := ⟨.header, [], []⟩

def change (d : Draft) (path : List String) (f : Change) (current : List String) : Option Draft :=
  (changeAt false f path d.origin d.entries).map fun (o, es) => ⟨o, es, current⟩

/-- Takes in one line. -/
def add (d : Draft) : Item → Option Draft
  | .header path key => d.change path (openTable key) (path ++ [key])
  | .arrayHeader path key => d.change path (openCollected key) (path ++ [key])
  | .entry path key v => d.change d.current (addAt path key v) d.current

end Draft

/-- The entries of the document that some lines make. -/
def assemble (items : List Item) : Option Entries := (items.foldlM Draft.add .empty).map Draft.entries

/-- The entries of a table between braces. -/
def assembleBraces : List (List String × String × Value) → Origin → Entries → Option Entries
  | [], _, es => some es
  | (path, key, v) :: rest, o, es =>
    match addAt path key v o es with
    | none => none
    | some (o, es) => assembleBraces rest o es

end PlanReuse.Toml
