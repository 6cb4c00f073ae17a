import PlanReuse.Context
import PlanReuse.Proofs.Numbering.History
import PlanReuse.Proofs.Pool.History

/-!
# Runs of a session

A session works with the caches that some contexts share: it extracts plans, keeps and asks for join
tables under keys made from its own extractions, and tends the caches. Every key names the extraction it
is made from. A builder may do anything that a session can do.
-/

namespace PlanReuse

/-! ### Keys and their origins -/

/-- An extraction that gave a code: the shape of the plan, if it has one, and the code. -/
structure Extracted where
  root : Option Shape
  code : PlanCode

/-- What the key of a join table is made from. -/
structure KeyOrigin where
  plan : Extracted
  device : DeviceId
  layout : JoinLayout
  columns : String

namespace KeyOrigin

def stream (o : KeyOrigin) : List UInt8 :=
  ArtifactKey.stream o.plan.code o.device (.joinTable o.layout o.columns)

def key? (o : KeyOrigin) : Option ArtifactKey :=
  ArtifactKey.ofPlan? o.plan.code o.device (.joinTable o.layout o.columns)

theorem key?_eq_some_iff {o : KeyOrigin} {key : ArtifactKey} :
    o.key? = some key ↔ o.plan.code.isCacheable = true ∧ key.value = Hash.sip o.stream := by
  rw [key?, ArtifactKey.ofPlan?, stream]
  split
  · next h =>
    rw [Option.some.injEq]
    constructor
    · rintro rfl
      exact ⟨h, rfl⟩
    · rintro ⟨_, hvalue⟩
      exact congrArg ArtifactKey.mk hvalue.symm
  · next h => simp [h]

end KeyOrigin

/-- A request for a key: the extraction, by its place in the session, and the rest of the origin. -/
structure Request where
  extraction : Nat
  device : DeviceId
  layout : JoinLayout
  columns : String

/-- The key that a change of a pool is about. -/
def Pool.Change.key? {α : Type} : Pool.Change α → Option ArtifactKey
  | .put key .. => some key
  | .get key _ => some key
  | .remove key _ => some key
  | _ => none

/-- Caches in use, and the extractions that gave a code, first to last. -/
structure Session (α : Type) where
  caches : Caches α
  extracted : List Extracted

namespace Session

variable {α : Type}

def start (settings : Settings) : Session α := ⟨.new settings, []⟩

def origin? (s : Session α) (r : Request) : Option KeyOrigin :=
  s.extracted[r.extraction]?.map fun e => ⟨e, r.device, r.layout, r.columns⟩

def keyOf? (s : Session α) (r : Request) : Option ArtifactKey := (s.origin? r).bind KeyOrigin.key?

/-- The origin of the key of a change, if the request gives that key. -/
def originOf? (s : Session α) (r : Request) (c : Pool.Change α) : Option KeyOrigin :=
  (s.origin? r).filter fun o => o.key?.isSome && decide (o.key? = c.key?)

/-! ### Steps -/

inductive Step (α : Type)
  | extract (scope : QueryScope) (root : Plan) (memo : Memo)
  | number (x : Numbering.Action)
  | reset
  /-- A change of the pool that is about no key. -/
  | tend (c : Pool.Change α)
  /-- A change about a key, made if the request gives that key. -/
  | use (r : Request) (c : Pool.Change α)

/-- Runs a change of the pool. -/
def changePool {β : Type} (f : Pool α → β × Pool α) : StateM (Session α) β :=
  modifyGet fun s =>
    let (b, pool) := f s.caches.pool
    (b, { s with caches := { s.caches with pool } })

def setPool (s : Session α) (pool : Pool α) : Session α :=
  { s with caches := { s.caches with pool } }

def setNumbering (s : Session α) (numbering : Numbering) : Session α :=
  { s with caches := { s.caches with numbering } }

/-- What an extraction adds to the list of those that gave a code. -/
def gives (scope : QueryScope) (root : Plan) (memo : Memo) (numbering : Numbering) :
    List Extracted :=
  match (extract scope root memo numbering).outcome with
  | .ok code => [⟨(scope.visit memo root).1.toOption.join, code⟩]
  | .error _ => []

def step (s : Session α) : Step α → Session α
  | .extract scope root memo =>
    let numbering := s.caches.numbering
    { s.setNumbering (extract scope root memo numbering).numbering with
      extracted := s.extracted ++ gives scope root memo numbering }
  | .number x => s.setNumbering (s.caches.numbering.act x)
  | .reset => { s with caches := s.caches.reset }
  | .tend c => if c.key? = none then s.setPool (s.caches.pool.change c) else s
  | .use r c =>
    match s.originOf? r c with
    | some _ => s.setPool (s.caches.pool.change c)
    | none => s

def steps (s : Session α) (xs : List (Step α)) : Session α := xs.foldl step s

/-! ### What steps leave behind -/

/-- An insertion and the origin of its key. -/
structure Stored (α : Type) where
  origin : KeyOrigin
  insertion : Pool.Insertion α

/-- The origin of the key that a step uses. -/
def used? (s : Session α) : Step α → Option KeyOrigin
  | .use r c => s.originOf? r c
  | _ => none

def stored? (s : Session α) : Step α → Option (Stored α)
  | .use r c => (s.originOf? r c).bind fun o => (s.caches.pool.insertion? c).map fun i => ⟨o, i⟩
  | _ => none

/-- The origins of the keys that steps use, the latest first. -/
def origins : Session α → List (Step α) → List KeyOrigin
  | _, [] => []
  | s, x :: xs => origins (s.step x) xs ++ (s.used? x).toList

/-- The insertions that steps make, the latest first. -/
def stores : Session α → List (Step α) → List (Stored α)
  | _, [] => []
  | s, x :: xs => stores (s.step x) xs ++ (s.stored? x).toList

/-! ### Requests along a run -/

theorem steps_append (s : Session α) (xs ys : List (Step α)) :
    s.steps (xs ++ ys) = (s.steps xs).steps ys :=
  List.foldl_append

/-- Extractions stay where they are in the list. -/
theorem extracted_step (s : Session α) (x : Step α) : s.extracted <+: (s.step x).extracted := by
  cases x with
  | extract scope root memo => exact List.prefix_append _ _
  | number x => exact List.prefix_rfl
  | reset => exact List.prefix_rfl
  | tend c =>
    rw [step]
    split <;> exact List.prefix_rfl
  | use r c =>
    rw [step]
    split <;> exact List.prefix_rfl

theorem extracted_steps (s : Session α) (xs : List (Step α)) :
    s.extracted <+: (s.steps xs).extracted := by
  induction xs generalizing s with
  | nil => exact List.prefix_rfl
  | cons x xs ih => exact (s.extracted_step x).trans (ih (s.step x))

/-- A request that gives a key gives the same key ever after. -/
theorem keyOf?_steps {s : Session α} {r : Request} {key : ArtifactKey} (h : s.keyOf? r = some key)
    (xs : List (Step α)) : (s.steps xs).keyOf? r = some key := by
  obtain ⟨o, ho, hkey⟩ := Option.bind_eq_some_iff.mp h
  obtain ⟨e, he, rfl⟩ := Option.map_eq_some_iff.mp ho
  obtain ⟨rest, hrest⟩ := s.extracted_steps xs
  have he' : (s.steps xs).extracted[r.extraction]? = some e := by
    rw [← hrest, List.getElem?_append_left (List.getElem?_eq_some_iff.mp he).1]
    exact he
  rw [keyOf?, origin?, he']
  exact hkey

/-- The origin of a change is that of its key. -/
theorem originOf?_eq_some_iff {s : Session α} {r : Request} {c : Pool.Change α} {o : KeyOrigin} :
    s.originOf? r c = some o ↔
      s.origin? r = some o ∧ ∃ key, o.key? = some key ∧ c.key? = some key := by
  rw [originOf?, Option.filter_eq_some_iff, Bool.and_eq_true, decide_eq_true_iff,
    Option.isSome_iff_exists]
  constructor
  · rintro ⟨ho, ⟨key, hkey⟩, hc⟩
    exact ⟨ho, key, hkey, hc ▸ hkey⟩
  · rintro ⟨ho, key, hkey, hc⟩
    exact ⟨ho, ⟨key, hkey⟩, hkey.trans hc.symm⟩

theorem step_use {s : Session α} {r : Request} {key : ArtifactKey} {c : Pool.Change α}
    (hc : c.key? = some key) :
    s.step (.use r c) = if s.keyOf? r = some key then s.setPool (s.caches.pool.change c) else s := by
  by_cases hkey : s.keyOf? r = some key
  · obtain ⟨o, ho, hokey⟩ := Option.bind_eq_some_iff.mp hkey
    rw [step, originOf?_eq_some_iff.mpr ⟨ho, key, hokey, hc⟩, if_pos hkey]
  · have hnone : s.originOf? r c = none := by
      cases ho : s.originOf? r c with
      | none => rfl
      | some o =>
        obtain ⟨hr, key', hokey, hc'⟩ := originOf?_eq_some_iff.mp ho
        rw [hc] at hc'
        exact absurd (by rw [keyOf?, hr, Option.bind_some, hokey, hc']) hkey
    rw [step, hnone, if_neg hkey]

/-! ### Nested actions -/

/-- What a session can do. A builder does some actions of its own and ends with an artifact or fails. -/
inductive Action (α : Type)
  | step (x : Step α)
  | putItem (r : Request) (item : α)
  | reuseOrBuild (r : Request) (a : Address) (size : α → Nat) (during : List (Action α))
      (built : Except Unit α)

/-- Reuse or build, for a builder that may use the whole session. -/
def reuseOrBuild (s : Session α) (key : ArtifactKey) (a : Address) (size : α → Nat)
    (build : StateM (Session α) (Except Unit α)) : Except Unit (Recycled α) × Session α :=
  (Pool.reuseOrBuild changePool key a size build).run s

theorem changePool_changesOnly :
    Pool.ChangesOnly changePool (fun s : Session α => s.caches.pool) setPool :=
  fun _ _ _ => rfl

/-- The two ways to reuse or build, by what the pool holds when it is asked. -/
theorem reuseOrBuild_eq_steps {s : Session α} {r : Request} {key : ArtifactKey}
    (hkey : s.keyOf? r = some key) (a : Address) (size : α → Nat) (built : Except Unit α)
    {during : Session α → Session α} {ys : List (Step α)}
    (hduring : during (s.step (.use r (.get key a))) = (s.step (.use r (.get key a))).steps ys) :
    (s.reuseOrBuild key a size (modifyGet fun t => (built, during t))).2 =
      s.steps (.use r (.get key a) ::
        if s.caches.pool.contains key a then []
        else ys ++ (Pool.builtChange? key a size built).toList.map (.use r ·)) := by
  have hget : s.step (.use r (.get key a)) = s.setPool (s.caches.pool.get key a).2 := by
    rw [step_use (c := .get key a) rfl, if_pos hkey]
    rfl
  have hlater := keyOf?_steps hkey (.use r (.get key a) :: ys)
  rw [← Pool.isSome_get]
  rcases hp : s.caches.pool.get key a with ⟨_ | handle, pool⟩
  · rw [hp] at hget
    rw [reuseOrBuild, Pool.reuseOrBuild_of_miss changePool_changesOnly hp, ← hget]
    show _ = (s.step (.use r (.get key a))).steps (ys ++ _)
    rw [steps_append, ← hduring]
    cases built with
    | error e => rfl
    | ok item =>
      show _ = (during (s.step (.use r (.get key a)))).step (.use r (.put key a item (size item)))
      rw [step_use (c := .put key a item (size item)) rfl, if_pos]
      · rfl
      · rw [hduring]
        exact hlater
  · rw [hp] at hget
    rw [reuseOrBuild, Pool.reuseOrBuild_of_hit changePool_changesOnly hp]
    exact hget.symm

variable [Artifact α]

mutual

def act : Action α → Session α → Session α
  | .step x, s => s.step x
  | .putItem r item, s =>
    if s.keyOf? r = Artifact.key? item then s.setPool (s.caches.pool.putItem item).2 else s
  | .reuseOrBuild r a size during built, s =>
    match s.keyOf? r with
    | some key => (s.reuseOrBuild key a size (modifyGet fun t => (built, run during t))).2
    | none => s

def run : List (Action α) → Session α → Session α
  | [], s => s
  | x :: xs, s => run xs (act x s)

end

mutual

/-- The steps that an action comes to, those of a builder between the look-up and the insertion. -/
def stepsOf : Action α → Session α → List (Step α)
  | .step x, _ => [x]
  | .putItem r item, _ => (Pool.itemChange? item).toList.map (.use r ·)
  | .reuseOrBuild r a size during built, s =>
    match s.keyOf? r with
    | some key =>
      .use r (.get key a) ::
        if s.caches.pool.contains key a then []
        else allSteps during (s.step (.use r (.get key a))) ++
          (Pool.builtChange? key a size built).toList.map (.use r ·)
    | none => []

/-- The steps that the actions of a run come to, first to last. -/
def allSteps : List (Action α) → Session α → List (Step α)
  | [], _ => []
  | x :: xs, s => stepsOf x s ++ allSteps xs (act x s)

end

theorem putItem_eq_steps (s : Session α) (r : Request) (item : α) :
    s.act (.putItem r item) = s.steps (s.stepsOf (.putItem r item)) := by
  rw [act, stepsOf, Pool.itemChange?, Pool.putItem]
  cases hkey : Artifact.key? item with
  | none =>
    split <;> rfl
  | some key => exact (step_use (c := .put key _ item _) rfl).symm

mutual

/-- What an action makes of a session is what its steps make of it, one after the other. -/
theorem act_eq_steps (x : Action α) (s : Session α) : s.act x = s.steps (s.stepsOf x) := by
  cases x with
  | step x =>
    rw [act, stepsOf]
    rfl
  | putItem r item => exact s.putItem_eq_steps r item
  | reuseOrBuild r a size during built =>
    rw [act, stepsOf]
    cases hkey : s.keyOf? r with
    | none => rfl
    | some key =>
      exact reuseOrBuild_eq_steps hkey a size built (run_eq_steps during _)

theorem run_eq_steps (xs : List (Action α)) (s : Session α) : s.run xs = s.steps (s.allSteps xs) := by
  cases xs with
  | nil =>
    rw [run, allSteps]
    rfl
  | cons x xs =>
    rw [run, allSteps, steps_append, ← act_eq_steps x s]
    exact run_eq_steps xs (s.act x)

end

end Session

end PlanReuse
