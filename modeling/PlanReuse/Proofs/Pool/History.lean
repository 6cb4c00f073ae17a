import PlanReuse.Pool.Reuse
import PlanReuse.Proofs.Pool.Changes

/-!
# The history of a pool

A run is any list of actions. A builder may use the pool itself, so the actions of a run are nested; the
changes they come to are one after the other all the same, and whatever each change preserves holds of
every pool that a run leads to.
-/

namespace PlanReuse.Pool

variable {α : Type}

/-! ### States that hold a pool -/

section States

variable {σ ε : Type} {change : {β : Type} → (Pool α → β × Pool α) → StateM σ β} {pool : σ → Pool α}
  {setPool : σ → Pool α → σ} {key : ArtifactKey} {a : Address} {p : Pool α} {s : σ}

/-- A change of the pool in a state that holds one changes nothing else. -/
def ChangesOnly (change : {β : Type} → (Pool α → β × Pool α) → StateM σ β) (pool : σ → Pool α)
    (setPool : σ → Pool α → σ) : Prop :=
  ∀ (β : Type) (f : Pool α → β × Pool α) (s : σ),
    (change f).run s = ((f (pool s)).1, setPool s (f (pool s)).2)

theorem reuseOrBuild_of_hit (hchange : ChangesOnly change pool setPool) {handle : Handle α}
    (h : (pool s).get key a = (some handle, p)) (size : α → Nat)
    (build : StateM σ (Except ε α)) :
    (reuseOrBuild change key a size build).run s = (.ok (.hit handle), setPool s p) := by
  rw [reuseOrBuild, StateT.run_bind, hchange, h]
  rfl

theorem reuseOrBuild_of_miss (hchange : ChangesOnly change pool setPool)
    (h : (pool s).get key a = (none, p)) (size : α → Nat) (build : StateM σ (Except ε α)) :
    (reuseOrBuild change key a size build).run s =
      match build.run (setPool s p) with
      | (.error e, t) => (.error e, t)
      | (.ok item, t) =>
        (.ok (.built item ((pool t).put key a item (size item)).1),
          setPool t ((pool t).put key a item (size item)).2) := by
  rw [reuseOrBuild, StateT.run_bind, hchange, h]
  show (build >>= _).run (setPool s p) = _
  rw [StateT.run_bind]
  rcases build.run (setPool s p) with ⟨_ | item, t⟩
  · rfl
  · show ((change _ >>= _).run t : _) = _
    rw [StateT.run_bind, hchange]
    rfl

end States

/-! ### Runs -/

/-- What can be done with a pool. A builder does some actions of its own and ends with an artifact or
fails. -/
inductive Action (α : Type)
  | change (c : Change α)
  | putItem (item : α)
  | reuseOrBuild (key : ArtifactKey) (a : Address) (size : α → Nat) (during : List (Action α))
      (built : Except Unit α)

/-- The change that the end of a builder comes to. -/
def builtChange? (key : ArtifactKey) (a : Address) (size : α → Nat) :
    Except Unit α → Option (Change α)
  | .ok item => some (.put key a item (size item))
  | .error _ => none

theorem isSome_get (p : Pool α) (key : ArtifactKey) (a : Address) :
    (p.get key a).1.isSome = p.contains key a := by
  rw [get, contains, Partition.holds]
  cases (p.partition a).find? key <;> rfl

theorem getOrBuild_of_contains {p : Pool α} {key : ArtifactKey} {a : Address}
    (h : p.contains key a = true) {ε : Type} (size : α → Nat)
    (build : Pool α → Except ε α × Pool α) :
    (p.getOrBuild key a size build).2 = (p.get key a).2 := by
  rw [← isSome_get] at h
  rw [getOrBuild]
  rcases hget : p.get key a with ⟨_ | handle, q⟩
  · rw [hget] at h
    cases h
  · rfl

theorem getOrBuild_of_not_contains {p : Pool α} {key : ArtifactKey} {a : Address}
    (h : p.contains key a = false) (size : α → Nat) (built : Except Unit α)
    (during : Pool α → Pool α) :
    (p.getOrBuild key a size fun q => (built, during q)).2 =
      (during (p.get key a).2).changeAll (builtChange? key a size built).toList := by
  rw [← isSome_get] at h
  rw [getOrBuild]
  rcases hget : p.get key a with ⟨_ | handle, q⟩
  · cases built <;> rfl
  · rw [hget] at h
    cases h

theorem changeAll_append (p : Pool α) (cs ds : List (Change α)) :
    p.changeAll (cs ++ ds) = (p.changeAll cs).changeAll ds :=
  List.foldl_append

section Artifacts

variable [Artifact α]

mutual

def act : Action α → Pool α → Pool α
  | .change c, p => p.change c
  | .putItem item, p => (p.putItem item).2
  | .reuseOrBuild key a size during built, p =>
    (p.getOrBuild key a size fun p => (built, run during p)).2

def run : List (Action α) → Pool α → Pool α
  | [], p => p
  | x :: xs, p => run xs (act x p)

end

/-! ### Changes of a run -/

/-- The change that putting an artifact in under its own key comes to. -/
def itemChange? (item : α) : Option (Change α) :=
  (Artifact.key? item).map fun key =>
    .put key ⟨Artifact.artifactClass item, Artifact.device item⟩ item (Artifact.size item)

mutual

/-- The changes that an action comes to, those of a builder between the look-up and the insertion. -/
def changesOf : Action α → Pool α → List (Change α)
  | .change c, _ => [c]
  | .putItem item, _ => (itemChange? item).toList
  | .reuseOrBuild key a size during built, p =>
    .get key a ::
      if p.contains key a then []
      else changes during (p.get key a).2 ++ (builtChange? key a size built).toList

/-- The changes that the actions of a run come to, first to last. -/
def changes : List (Action α) → Pool α → List (Change α)
  | [], _ => []
  | x :: xs, p => changesOf x p ++ changes xs (act x p)

end

theorem putItem_eq_changeAll (p : Pool α) (item : α) :
    (p.putItem item).2 = p.changeAll (itemChange? item).toList := by
  rw [putItem, itemChange?]
  cases Artifact.key? item with
  | none => rfl
  | some key => rfl

mutual

/-- What an action makes of a pool is what its changes make of it, one after the other. -/
theorem act_eq_changeAll (x : Action α) (p : Pool α) : p.act x = p.changeAll (p.changesOf x) := by
  cases x with
  | change c =>
    rw [act, changesOf]
    rfl
  | putItem item =>
    rw [act, changesOf]
    exact p.putItem_eq_changeAll item
  | reuseOrBuild key a size during built =>
    rw [act, changesOf]
    cases hcontains : p.contains key a with
    | true => exact getOrBuild_of_contains hcontains size _
    | false =>
      rw [getOrBuild_of_not_contains hcontains, run_eq_changeAll during, ← changeAll_append]
      rfl

theorem run_eq_changeAll (xs : List (Action α)) (p : Pool α) :
    p.run xs = p.changeAll (p.changes xs) := by
  cases xs with
  | nil =>
    rw [run, changes]
    rfl
  | cons x xs =>
    rw [run, changes, changeAll_append, ← act_eq_changeAll x p]
    exact run_eq_changeAll xs (p.act x)

end

theorem sound_run (name : String) (budgets : Budgets) (actions : List (Action α)) :
    ((new name budgets).run actions).Sound := by
  rw [run_eq_changeAll]
  exact (sound_new name budgets).changeAll _

end Artifacts

end PlanReuse.Pool
