import PlanReuse.JoinTable.Build
import PlanReuse.Pool.Lines
import PlanReuse.Settings.Basic
import PlanReuse.Shared

/-!
# Execution contexts

A context has settings of its own and works with a numbering and a pool of join tables that other
contexts may share. A reset drops all numbers and all tables, for everyone who shares them.
-/

namespace PlanReuse

/-- What contexts share: a numbering of shapes and a pool of artifacts. -/
structure Caches (α : Type) where
  numbering : Numbering
  pool : Pool α

namespace Caches

variable {α : Type}

/-- The name of the pool of join tables. -/
def poolName : String := "HashtableRecycler"

/-- Empty caches with the limits of some settings. -/
def new (s : Settings) : Caches α :=
  { numbering := Numbering.empty s.numbering.limit s.numbering.shapeBytes
    pool := Pool.new poolName s.budgets }

/-- Drops all numbers, then all artifacts. -/
def reset (c : Caches α) : Caches α := ⟨c.numbering.clear, c.pool.clearAll⟩

/-- What a reset says, seen from the caches after it. -/
def resetLines (after : Caches α) : List Log.Line :=
  [after.numbering.clearLine, after.pool.clearAllLine, Log.info "执行器上下文已重置"]

@[simp] theorem numbering_reset (c : Caches α) : c.reset.numbering = c.numbering.clear := rfl

@[simp] theorem pool_reset (c : Caches α) : c.reset.pool = c.pool.clearAll := rfl

end Caches

instance {α : Type} [Artifact α] : Artifact (Shared α) where
  artifactClass a := Artifact.artifactClass a.value
  size a := Artifact.size a.value
  key? a := Artifact.key? a.value
  device a := Artifact.device a.value

end PlanReuse
