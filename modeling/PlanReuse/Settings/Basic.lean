import PlanReuse.Failure
import PlanReuse.Numbering.Basic
import PlanReuse.Pool.Budget

/-!
# Settings

The settings of the numbering, the pool, the estimator and the log, with their standard values, and what
makes settings unfit for use.
-/

namespace PlanReuse

structure NumberingSettings where
  limit : Nat
  shapeBytes : Nat
deriving DecidableEq

structure CostSettings where
  /-- Where the benchmarks are installed. -/
  benchmarkRoot : String
  sizeColumn : String
  timeColumn : String
  /-- How many decisions are remembered. -/
  capacity : Nat
deriving DecidableEq

structure LogSettings where
  level : String
  directory : String
  file : String
  maxFileBytes : Nat
  maxFiles : Nat
deriving DecidableEq

structure Settings where
  numbering : NumberingSettings
  budgets : Budgets
  cost : CostSettings
  log : LogSettings
deriving DecidableEq

def NumberingSettings.standard : NumberingSettings :=
  ⟨Numbering.defaultLimit, Numbering.defaultShapeBytes⟩

def CostSettings.standard : CostSettings := ⟨"/dwarf_bench", "buf_size_bytes", "total_time", 1024⟩

def LogSettings.standard : LogSettings := ⟨"info", "logs", "datarecycler", 100 * 1024 * 1024, 5⟩

def Settings.standard : Settings := ⟨.standard, .standard, .standard, .standard⟩

/-! ### Fitness -/

inductive SettingsFault
  | zeroShapeBytes
  | budget (artifactClass : ArtifactClass) (fault : BudgetFault)
  | zeroCapacity
  | emptyColumn
  | zeroFiles
deriving DecidableEq

def SettingsFault.message : SettingsFault → String
  | .zeroShapeBytes => "dag_cache.bytes_per_node 必须大于0"
  | .budget c fault => "hashtable_cache." ++ c.name ++ ": " ++ fault.message
  | .zeroCapacity => "cost_model.decision_cache_capacity 必须大于0"
  | .emptyColumn => "cost_model 的列名不能为空"
  | .zeroFiles => "log.max_files 必须大于0"

/-- The first class whose budget is unfit. -/
def Budgets.fault? (bs : Budgets) : Option SettingsFault :=
  ArtifactClass.all.findSome? fun c => ((bs.get c).fault?).map (SettingsFault.budget c)

/-- The first thing that makes settings unfit. -/
def Settings.fault? (s : Settings) : Option SettingsFault :=
  if s.numbering.shapeBytes = 0 then some .zeroShapeBytes
  else
    match s.budgets.fault? with
    | some fault => some fault
    | none =>
      if s.cost.capacity = 0 then some .zeroCapacity
      else if s.cost.sizeColumn.isEmpty || s.cost.timeColumn.isEmpty then some .emptyColumn
      else if s.log.maxFiles = 0 then some .zeroFiles
      else none

theorem Settings.fault?_standard : Settings.standard.fault? = none := by decide

end PlanReuse
