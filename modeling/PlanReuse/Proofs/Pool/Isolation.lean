import PlanReuse.JoinTable.Basic
import PlanReuse.Proofs.Pool.Cell

/-!
# Isolation of partitions

Two runs that do the same at an address, to the budget of its class and to the pool as a whole get the
same answers there and leave the same behind, whatever else they do. The places that they give out may
differ, but the partition stands in the order of its insertions in both.
-/

namespace PlanReuse

variable {α : Type}

namespace Pool

/-! ### Runs with their answers -/

/-- A request; a builder makes some of its own and ends with an artifact or fails. -/
inductive Request (α : Type)
  | operation (o : Operation α)
  | reuseOrBuild (key : ArtifactKey) (a : Address) (size : α → Nat) (during : List (Request α))
      (built : Except Unit α)

structure Event (α : Type) where
  operation : Operation α
  answer : Answer α

section Artifacts

variable [Artifact α]

/-- Whether an event can matter at an address. -/
def Event.covers (a : Address) (v : Event α) : Bool := v.operation.scope.covers a

def event (p : Pool α) (o : Operation α) : Event α := ⟨o, (p.operate o).1⟩

mutual

def serve : Request α → Pool α → Pool α
  | .operation o, p => (p.operate o).2
  | .reuseOrBuild key a size during built, p =>
    (p.getOrBuild key a size fun p => (built, serveAll during p)).2

def serveAll : List (Request α) → Pool α → Pool α
  | [], p => p
  | r :: rs, p => serveAll rs (serve r p)

end

mutual

/-- The operations that a request comes to, with their answers: of a builder the look-up, its own
requests and the insertion. -/
def eventsOf : Request α → Pool α → List (Event α)
  | .operation o, p => [p.event o]
  | .reuseOrBuild key a size during built, p =>
    p.event (.change (.get key a)) ::
      if p.contains key a then []
      else
        events during (p.get key a).2 ++
          (builtChange? key a size built).toList.map fun x =>
            (serveAll during (p.get key a).2).event (.change x)

def events : List (Request α) → Pool α → List (Event α)
  | [], _ => []
  | r :: rs, p => eventsOf r p ++ events rs (serve r p)

end

/-- The events lead from one pool to another, each answered by the pool that the earlier ones lead to. -/
inductive Leads : Pool α → List (Event α) → Pool α → Prop
  | nil (p : Pool α) : Leads p [] p
  | cons {p q : Pool α} {es : List (Event α)} (o : Operation α) (h : Leads (p.operate o).2 es q) :
    Leads p (p.event o :: es) q

theorem Leads.append {p q r : Pool α} {es fs : List (Event α)} (h : Leads p es q)
    (h' : Leads q fs r) : Leads p (es ++ fs) r := by
  induction h with
  | nil p => exact h'
  | cons o _ ih => exact .cons o (ih h')

theorem leads_operation (p : Pool α) (o : Operation α) : Leads p [p.event o] (p.operate o).2 :=
  .cons o (.nil _)

theorem leads_builtChange? (p : Pool α) (key : ArtifactKey) (a : Address) (size : α → Nat)
    (built : Except Unit α) :
    Leads p ((builtChange? key a size built).toList.map fun x => p.event (.change x))
      (p.changeAll (builtChange? key a size built).toList) := by
  cases built with
  | error e => exact .nil p
  | ok item => exact p.leads_operation _

mutual

theorem leads_serve (r : Request α) (p : Pool α) : Leads p (p.eventsOf r) (p.serve r) := by
  cases r with
  | operation o =>
    rw [eventsOf, serve]
    exact p.leads_operation o
  | reuseOrBuild key a size during built =>
    rw [eventsOf, serve]
    refine .cons (.change (.get key a)) ?_
    cases hcontains : p.contains key a with
    | true =>
      rw [if_pos rfl, getOrBuild_of_contains hcontains]
      exact .nil _
    | false =>
      rw [if_neg Bool.false_ne_true, getOrBuild_of_not_contains hcontains]
      exact (leads_serveAll during _).append (leads_builtChange? _ key a size built)

theorem leads_serveAll (rs : List (Request α)) (p : Pool α) :
    Leads p (p.events rs) (p.serveAll rs) := by
  cases rs with
  | nil =>
    rw [events, serveAll]
    exact .nil p
  | cons r rs =>
    rw [events, serveAll]
    exact (leads_serve r p).append (leads_serveAll rs (p.serve r))

end

theorem Leads.sound {p q : Pool α} {es : List (Event α)} (h : Leads p es q) (hp : p.Sound) :
    q.Sound := by
  induction h with
  | nil p => exact hp
  | cons o _ ih => exact ih (operate_sound hp o)

/-! ### One address of a run -/

/-- The cell at an address without its places. -/
def view (p : Pool α) (a : Address) : Cell α := (p.cell a).unplaced

theorem Sound.operate_view {p : Pool α} (hp : p.Sound) {a : Address} {o : Operation α}
    (h : o.scope.covers a = true) :
    (p.view a).operate 0 o = ((p.operate o).1, (p.operate o).2.view a) := by
  rw [view, Cell.operate_unplaced (hp.partition a) p.nextSeq, hp.operate_cell h]
  rfl

theorem view_operate_of_not_covers (p : Pool α) {a : Address} {o : Operation α}
    (h : o.scope.covers a = false) : (p.operate o).2.view a = p.view a :=
  congrArg Cell.unplaced (p.cell_operate_of_not_covers h)

end Artifacts

end Pool

/-- What a cell without places makes of operations, one after the other. -/
def Cell.operateAll [Artifact α] (c : Cell α) :
    List (Pool.Operation α) → List (Pool.Event α) × Cell α
  | [] => ([], c)
  | o :: os =>
    let r := c.operate 0 o
    let s := r.2.operateAll os
    (⟨o, r.1⟩ :: s.1, s.2)

namespace Pool

variable [Artifact α]

/-- At an address a run does what the cell there does with the events that cover it, alone. -/
theorem Leads.operateAll_view {p q : Pool α} {es : List (Event α)} (h : Leads p es q) (hp : p.Sound)
    (a : Address) :
    (p.view a).operateAll ((es.filter (Event.covers a)).map Event.operation) =
      (es.filter (Event.covers a), q.view a) := by
  induction h with
  | nil p => rfl
  | @cons p q es o _ ih =>
    have hrest := ih (operate_sound hp o)
    cases hcovers : o.scope.covers a with
    | true =>
      have hevent : (p.event o).covers a = true := hcovers
      rw [List.filter_cons_of_pos hevent, List.map_cons, event, Cell.operateAll,
        hp.operate_view hcovers, hrest]
    | false =>
      have hevent : ¬ (p.event o).covers a = true := by
        rw [Event.covers, event, hcovers]
        exact Bool.false_ne_true
      rw [List.filter_cons_of_neg hevent, ← p.view_operate_of_not_covers hcovers]
      exact hrest

/-- Of two runs with the same operations at an address, on the budget of its class and on the pool as a
whole, the operations get the same answers, and the partition ends with the same keys, artifacts, sizes
and uses in the same order, which is in both that of the insertions. -/
theorem isolation (name name' : String) {budgets budgets' : Budgets} {a : Address}
    (hbudget : budgets.get a.artifactClass = budgets'.get a.artifactClass)
    {rs rs' : List (Request α)}
    (hsame : (((new name budgets).events rs).filter (Event.covers a)).map Event.operation =
      (((new name' budgets').events rs').filter (Event.covers a)).map Event.operation) :
    let p := (new name budgets).serveAll rs
    let p' := (new name' budgets').serveAll rs'
    ((new name budgets).events rs).filter (Event.covers a) =
        ((new name' budgets').events rs').filter (Event.covers a) ∧
      (p.partition a).unplaced = (p'.partition a).unplaced ∧
      ((p.partition a).entries.map fun e => e.usage.seq).Pairwise (· < ·) ∧
      ((p'.partition a).entries.map fun e => e.usage.seq).Pairwise (· < ·) := by
  intro p p'
  have hnew : (new name budgets : Pool α).Sound := sound_new name budgets
  have hnew' : (new name' budgets' : Pool α).Sound := sound_new name' budgets'
  have hruns := leads_serveAll rs (new name budgets)
  have hruns' := leads_serveAll rs' (new name' budgets')
  have hstart : (new name budgets : Pool α).view a = (new name' budgets').view a := by
    simp only [view, cell, partition_new]
    exact congrArg (fun b => Cell.unplaced ⟨.empty, b⟩) hbudget
  have hcell := hruns.operateAll_view hnew a
  rw [hstart, hsame, hruns'.operateAll_view hnew' a] at hcell
  obtain ⟨hevents, hview⟩ := Prod.mk.inj hcell
  exact ⟨hevents.symm, (congrArg Cell.partition hview).symm, ((hruns.sound hnew).partition a).order,
    ((hruns'.sound hnew').partition a).order⟩

/- Both runs put three artifacts of 40 bytes in at the first address, where 100 bytes are allowed, so the
older of the first two has to leave. The first run also puts one in on another device, and builds the
third; the places that the two runs give out differ. -/
theorem isolation_of_shifted_places :
    let table (key : UInt64) (device : DeviceId) : JoinTable :=
      ⟨.perfect 0 0, .oneToOne, some ⟨key⟩, device, 10, Array.replicate 10 0⟩
    let a : Address := ⟨.perfect, 0⟩
    let budgets := Budgets.uniform ⟨100, 50⟩
    let budgets' := budgets.set .overlaps ⟨1, 1⟩
    let rs : List (Request JoinTable) :=
      [.operation (.putItem (table 1 0)), .operation (.putItem (table 9 1)),
        .operation (.putItem (table 2 0)),
        .reuseOrBuild ⟨3⟩ a JoinTable.size
          [.operation (.change (.setTotal .baseline 7)), .operation (.ask a .occupied)]
          (.ok (table 3 0)),
        .operation (.ask a .keys)]
    let rs' : List (Request JoinTable) :=
      [.operation (.putItem (table 1 0)), .operation (.putItem (table 2 0)),
        .operation (.change (.get ⟨3⟩ a)), .operation (.ask a .occupied),
        .operation (.change (.clear ⟨.perfect, 1⟩)),
        .operation (.change (.put ⟨3⟩ a (table 3 0) 40)), .operation (.ask a .keys)]
    let p := (new "tables" budgets).serveAll rs
    let p' := (new "others" budgets').serveAll rs'
    budgets.get a.artifactClass = budgets'.get a.artifactClass ∧
      (((new "tables" budgets).events rs).filter (Event.covers a)).map Event.operation =
        (((new "others" budgets').events rs').filter (Event.covers a)).map Event.operation ∧
      ((p.partition a).entries.map fun e => e.usage.seq) = [2, 3] ∧
      ((p'.partition a).entries.map fun e => e.usage.seq) = [1, 2] ∧
      (p.partition a).unplaced = (p'.partition a).unplaced := by
  intro table a budgets budgets' rs rs' p p'
  obtain ⟨hsame, hplaces, hplaces'⟩ :
      (((new "tables" budgets).events rs).filter (Event.covers a)).map Event.operation =
          (((new "others" budgets').events rs').filter (Event.covers a)).map Event.operation ∧
        ((p.partition a).entries.map fun e => e.usage.seq) = [2, 3] ∧
        ((p'.partition a).entries.map fun e => e.usage.seq) = [1, 2] := by
    decide +kernel +revert
  have hbudget : budgets.get a.artifactClass = budgets'.get a.artifactClass := rfl
  have hall := isolation "tables" "others" hbudget hsame
  exact ⟨hbudget, hsame, hplaces, hplaces', hall.2.1⟩

end Pool

end PlanReuse
