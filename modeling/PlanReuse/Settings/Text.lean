import PlanReuse.Files
import PlanReuse.Number.Word
import PlanReuse.Settings.Basic
import PlanReuse.Toml.Reader
import PlanReuse.Toml.Writer

/-!
# Settings files

Settings are kept as TOML. Reading takes the standard value for all that a file leaves out and passes
over what it does not know; a value of the wrong type, a number that is negative or too large, or a text
that is no TOML, is refused. Settings that are read are always fit for use.
-/

namespace PlanReuse

open Toml (Value Entries)

/-! ### Sections -/

/-- What a section of the settings can be read from. -/
inductive Section
  /-- Values by name. -/
  | named (entries : Entries)
  /-- Values by place, in the order of the section's fields. -/
  | placed (items : List Value)

namespace Section

/-- A table gives values by name and an array by place. A date has neither, and so it leaves out all. -/
def ofValue? : Value → Option Section
  | .table _ entries => some (named entries)
  | .array items | .tables items => some (placed items)
  | .datetime => some (named [])
  | _ => none

/-- The value of a field, by its name and its place. -/
def field? (s : Section) (name : String) (place : Nat) : Option Value :=
  match s with
  | named entries => entries.lookup name
  | placed items => items[place]?

/-- Reads a field, or takes the standard value if it is left out. -/
def read {α : Type} (s : Section) (name : String) (place : Nat) (standard : α)
    (ofValue : Value → Option α) : Option α :=
  match s.field? name place with
  | none => some standard
  | some v => ofValue v

/-- Values under names that no field has are passed over, but must be readable. -/
def othersReadable (s : Section) (names : List String) : Bool :=
  match s with
  | named entries => (entries.filter fun e => !names.contains e.1).all fun e => e.2.isReadable
  | placed _ => true

end Section

/-- A number that fits a 64-bit word. -/
def wordOfValue? : Value → Option Nat
  | .integer (some n) => if 0 ≤ n ∧ n ≤ maxWord then some n.toNat else none
  | _ => none

def stringOfValue? : Value → Option String
  | .string s => some s
  | _ => none

/-! ### Reading -/

def NumberingSettings.ofSection? (s : Section) : Option NumberingSettings := do
  let limit ← s.read "max_node_map_bytes" 0 standard.limit wordOfValue?
  let shapeBytes ← s.read "bytes_per_node" 1 standard.shapeBytes wordOfValue?
  if s.othersReadable ["max_node_map_bytes", "bytes_per_node"] then pure ⟨limit, shapeBytes⟩ else none

def Budget.ofSection? (s : Section) : Option Budget := do
  let total ← s.read "max_total_bytes" 0 standard.total wordOfValue?
  let item ← s.read "max_item_bytes" 1 standard.item wordOfValue?
  if s.othersReadable ["max_total_bytes", "max_item_bytes"] then pure ⟨total, item⟩ else none

def Budget.ofValue? (v : Value) : Option Budget := (Section.ofValue? v).bind Budget.ofSection?

def Budgets.ofSection? (s : Section) : Option Budgets := do
  let perfect ← s.read "perfect_ht" 0 .standard Budget.ofValue?
  let baseline ← s.read "baseline_ht" 1 .standard Budget.ofValue?
  let overlaps ← s.read "overlaps_ht" 2 .standard Budget.ofValue?
  if s.othersReadable ["perfect_ht", "baseline_ht", "overlaps_ht"] then
    pure ⟨perfect, baseline, overlaps⟩
  else none

def CostSettings.ofSection? (s : Section) : Option CostSettings := do
  let root ← s.read "dwarf_bench_path" 0 standard.benchmarkRoot stringOfValue?
  let sizeColumn ← s.read "size_header" 1 standard.sizeColumn stringOfValue?
  let timeColumn ← s.read "time_header" 2 standard.timeColumn stringOfValue?
  let capacity ← s.read "decision_cache_capacity" 3 standard.capacity wordOfValue?
  if s.othersReadable ["dwarf_bench_path", "size_header", "time_header", "decision_cache_capacity"] then
    pure ⟨root, sizeColumn, timeColumn, capacity⟩
  else none

def LogSettings.ofSection? (s : Section) : Option LogSettings := do
  let level ← s.read "level" 0 standard.level stringOfValue?
  let directory ← s.read "dir" 1 standard.directory stringOfValue?
  let file ← s.read "file" 2 standard.file stringOfValue?
  let maxFileBytes ← s.read "max_file_size" 3 standard.maxFileBytes wordOfValue?
  let maxFiles ← s.read "max_files" 4 standard.maxFiles wordOfValue?
  if s.othersReadable ["level", "dir", "file", "max_file_size", "max_files"] then
    pure ⟨level, directory, file, maxFileBytes, maxFiles⟩
  else none

/-- The settings that a document holds. -/
def Settings.ofEntries? (entries : Entries) : Option Settings := do
  let s := Section.named entries
  let numbering ← s.read "dag_cache" 0 .standard fun v =>
    (Section.ofValue? v).bind NumberingSettings.ofSection?
  let budgets ← s.read "hashtable_cache" 1 .standard fun v =>
    (Section.ofValue? v).bind Budgets.ofSection?
  let cost ← s.read "cost_model" 2 .standard fun v => (Section.ofValue? v).bind CostSettings.ofSection?
  let log ← s.read "log" 3 .standard fun v => (Section.ofValue? v).bind LogSettings.ofSection?
  if s.othersReadable ["dag_cache", "hashtable_cache", "cost_model", "log"] then
    pure ⟨numbering, budgets, cost, log⟩
  else none

/-- The settings that a text writes, fit or not. -/
def Settings.parse? (text : String) : Option Settings :=
  (Toml.read? text.toList).bind Settings.ofEntries?

/-- What stands for the reason why a text is not settings in TOML. -/
def Settings.malformed : String := "<TOML>"

/-- The settings of a file. -/
def Settings.load (file : FileRead) : Except Failure Settings :=
  match file.text with
  | .error fault => .error (.io fault)
  | .ok text =>
    match Settings.parse? text with
    | none => .error (.settings Settings.malformed)
    | some s =>
      match s.fault? with
      | some fault => .error (.settings fault.message)
      | none => .ok s

/-! ### Writing -/

/-- A line that opens a section. -/
def headerLine (name : String) : List Char := '[' :: (name.toList ++ [']', '\n'])

/-- A line that sets a field. -/
def fieldLine (name : String) (value : List Char) : List Char :=
  name.toList ++ " = ".toList ++ value ++ ['\n']

def wordLine (name : String) (n : Nat) : List Char := fieldLine name (Nat.toDigits 10 n)

def stringLine (name : String) (s : String) : List Char := fieldLine name (Toml.writeString s.toList)

def Budget.render (name : String) (b : Budget) : List Char :=
  headerLine name ++ wordLine "max_total_bytes" b.total ++ wordLine "max_item_bytes" b.item

/-- The text of settings: a section for each part, a blank line between sections. -/
def Settings.render (s : Settings) : List Char :=
  List.intercalate ['\n']
    [headerLine "dag_cache" ++ wordLine "max_node_map_bytes" s.numbering.limit ++
      wordLine "bytes_per_node" s.numbering.shapeBytes,
    Budget.render "hashtable_cache.perfect_ht" s.budgets.perfect,
    Budget.render "hashtable_cache.baseline_ht" s.budgets.baseline,
    Budget.render "hashtable_cache.overlaps_ht" s.budgets.overlaps,
    headerLine "cost_model" ++ stringLine "dwarf_bench_path" s.cost.benchmarkRoot ++
      stringLine "size_header" s.cost.sizeColumn ++ stringLine "time_header" s.cost.timeColumn ++
      wordLine "decision_cache_capacity" s.cost.capacity,
    headerLine "log" ++ stringLine "level" s.log.level ++ stringLine "dir" s.log.directory ++
      stringLine "file" s.log.file ++ wordLine "max_file_size" s.log.maxFileBytes ++
      wordLine "max_files" s.log.maxFiles]

/-- The content of the file that settings are saved in. -/
def Settings.save (s : Settings) : ByteArray := (String.ofList s.render).toUTF8

end PlanReuse
