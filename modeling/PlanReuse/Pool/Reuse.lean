import PlanReuse.Pool.Basic

/-!
# Reuse or build

A request that finds nothing builds the artifact and offers it to the pool. The builder works on the
same state as everybody else, so it may use the pool itself: look up, put in, take out or clear. The
look-up happens before it runs and the insertion after.
-/

namespace PlanReuse

/-- What a pool needs to know of an artifact to place it. -/
class Artifact (α : Type) where
  artifactClass : α → ArtifactClass
  size : α → Nat
  key? : α → Option ArtifactKey
  device : α → DeviceId

/-- The answer to a request that may build. -/
inductive Recycled (α : Type)
  | hit (handle : Handle α)
  /-- The artifact just built, and what its insertion did. -/
  | built (item : α) (report : PutReport α)

namespace Recycled

variable {α : Type}

def item : Recycled α → α
  | hit h => h.item
  | built a _ => a

/-- Whether the pool took the artifact just built; of a hit nothing is said. -/
def retained? : Recycled α → Option Bool
  | hit _ => none
  | built _ r => some r.outcome.isAccepted

end Recycled

namespace Pool

variable {α : Type}

/-- Puts an artifact in under its own key, at its own place. One without a key is turned away before
the pool looks at it. -/
def putItem [Artifact α] (p : Pool α) (item : α) : PutReport α × Pool α :=
  match Artifact.key? item with
  | none => (⟨.rejected .noKey, [], false⟩, p)
  | some key =>
    p.put key ⟨Artifact.artifactClass item, Artifact.device item⟩ item (Artifact.size item)

/-- Reuse or build, for a builder that works on any state that holds a pool. `change` runs a change of
the pool in that state. -/
def reuseOrBuild {m : Type → Type} [Monad m] {ε : Type}
    (change : {β : Type} → (Pool α → β × Pool α) → m β)
    (key : ArtifactKey) (a : Address) (size : α → Nat) (build : m (Except ε α)) :
    m (Except ε (Recycled α)) := do
  match ← change (·.get key a) with
  | some handle => pure (.ok (.hit handle))
  | none =>
    match ← build with
    | .error e => pure (.error e)
    | .ok item =>
      let report ← change (·.put key a item (size item))
      pure (.ok (.built item report))

/-- Reuse or build, for a builder that works on the pool alone. -/
def getOrBuild {ε : Type} (p : Pool α) (key : ArtifactKey) (a : Address) (size : α → Nat)
    (build : Pool α → Except ε α × Pool α) : Except ε (Recycled α) × Pool α :=
  match p.get key a with
  | (some handle, p) => (.ok (.hit handle), p)
  | (none, p) =>
    match build p with
    | (.error e, p) => (.error e, p)
    | (.ok item, p) =>
      let (report, p) := p.put key a item (size item)
      (.ok (.built item report), p)

/-- On a state that is a pool the two are one. -/
theorem reuseOrBuild_eq_getOrBuild {ε : Type} (p : Pool α) (key : ArtifactKey) (a : Address)
    (size : α → Nat) (build : Pool α → Except ε α × Pool α) :
    (reuseOrBuild (fun f => (modifyGet f : StateM (Pool α) _)) key a size build).run p =
      getOrBuild p key a size build := by
  simp only [reuseOrBuild, getOrBuild, StateT.run_bind, StateT.run_modifyGet, pure_bind]
  rcases p.get key a with ⟨_ | h, p'⟩
  · simp only [StateT.run_bind]
    rcases hb : build p' with ⟨_ | item, p''⟩ <;> simp [hb, StateT.run] <;> rfl
  · rfl

end Pool

end PlanReuse
