import PlanReuse.Context
import PlanReuse.Proofs.Numbering.Later
import PlanReuse.Proofs.Pool.Ahead

/-!
# What a reset leaves behind

After a reset caches do what new ones with the limits then in force do: every later operation gets the
same answer, and the same is kept. Only the counters go on: the generation of the numbers, the places in
the order of insertions, and what has been counted.
-/

namespace PlanReuse

/-! ### Operations and replies -/

/-- What can be done with caches, apart from building. -/
inductive Caches.Operation (α : Type)
  | extract (scope : QueryScope) (root : Plan) (memo : Memo)
  | number (x : Numbering.Action)
  | use (o : Pool.Operation α)
  | reset

/-- What the caller of an operation gets to know. -/
inductive Reply (α : Type)
  | extracted (outcome : Except JoinFault PlanCode) (memo : Memo)
  | numbers (ns : Option Numbers)
  | number (n : Option Nat)
  | answer (x : Pool.Answer α)
  /-- An artifact was built, and was put in with this outcome. -/
  | built (item : α) (outcome : PutOutcome)
  | failed
  | done

/-- The reply some generations later. -/
def Reply.later {α : Type} (generations : Nat) : Reply α → Reply α
  | extracted outcome memo => extracted (outcome.map (PlanCode.later generations)) memo
  | numbers ns => numbers (ns.map (Numbers.later generations))
  | r => r

variable {α : Type}

def Numbering.reply (c : Numbering) : Action → Reply α
  | .resolve ss => .numbers (c.resolve ss).1
  | .resolveOne s => .number (c.resolveOne s).1
  | .setLimit _ => .done
  | .clear => .done

theorem Numbering.reply_later (generations overflows : Nat) (c : Numbering) (x : Action) :
    (c.later generations overflows).reply x = (c.reply x : Reply α).later generations := by
  cases x with
  | resolve ss => exact congrArg (Reply.numbers ·.1) (c.resolve_later generations overflows ss)
  | resolveOne s => exact congrArg (Reply.number ·.1) (c.resolveOne_later generations overflows s)
  | setLimit limit => rfl
  | clear => rfl

/-- The reply to a request that may build, with the pool right after it. -/
def Pool.reply (p : Pool α) : Except Unit (Recycled α) → Reply α
  | .ok (.hit handle) => .answer (p.lookUpAnswer (some handle))
  | .ok (.built item report) => .built item report.outcome
  | .error _ => .failed

def Caches.operate [Artifact α] (c : Caches α) : Operation α → Reply α × Caches α
  | .extract scope root memo =>
    let e := extract scope root memo c.numbering
    (.extracted e.outcome e.memo, { c with numbering := e.numbering })
  | .number x => (c.numbering.reply x, { c with numbering := c.numbering.act x })
  | .use o => (.answer (c.pool.operate o).1, { c with pool := (c.pool.operate o).2 })
  | .reset => (.done, c.reset)

/-! ### Runs -/

/-- An operation, or a request that may build; a builder does some work of its own and ends with an
artifact or fails. -/
inductive Work (α : Type)
  | operation (o : Caches.Operation α)
  | reuseOrBuild (key : ArtifactKey) (a : Address) (size : α → Nat) (during : List (Work α))
      (built : Except Unit α)

/-- Caches and the replies that they have given, the latest first. -/
structure Diary (α : Type) where
  caches : Caches α
  replies : List (Reply α)

namespace Diary

def start (c : Caches α) : Diary α := ⟨c, []⟩

def setPool (d : Diary α) (pool : Pool α) : Diary α :=
  { d with caches := { d.caches with pool } }

def note (d : Diary α) (r : Reply α) : Diary α := { d with replies := r :: d.replies }

def changePool {β : Type} (f : Pool α → β × Pool α) : StateM (Diary α) β :=
  modifyGet fun d => ((f d.caches.pool).1, d.setPool (f d.caches.pool).2)

theorem changePool_changesOnly :
    Pool.ChangesOnly changePool (fun d : Diary α => d.caches.pool) setPool :=
  fun _ _ _ => rfl

variable [Artifact α]

def operate (d : Diary α) (o : Caches.Operation α) : Diary α :=
  { d.note (d.caches.operate o).1 with caches := (d.caches.operate o).2 }

/-- Reuse or build, for a builder that works on the caches as everybody else does. -/
def reuseOrBuild (d : Diary α) (key : ArtifactKey) (a : Address) (size : α → Nat)
    (build : StateM (Diary α) (Except Unit α)) : Diary α :=
  let r := (Pool.reuseOrBuild changePool key a size build).run d
  r.2.note (r.2.caches.pool.reply r.1)

mutual

def serve : Work α → Diary α → Diary α
  | .operation o, d => d.operate o
  | .reuseOrBuild key a size during built, d =>
    d.reuseOrBuild key a size (modifyGet fun d => (built, serveAll during d))

def serveAll : List (Work α) → Diary α → Diary α
  | [], d => d
  | w :: ws, d => serveAll ws (serve w d)

end

end Diary

/-! ### Caches ahead of each other -/

/-- What a reset does not set back. -/
structure Counters where
  generations : Nat
  overflows : Nat
  places : Nat
  tally : Tally

def Caches.counters (c : Caches α) : Counters :=
  ⟨c.numbering.generation, c.numbering.overflows, c.pool.nextSeq, c.pool.tally⟩

/-- Caches that are like others but for their counters, which are ahead. -/
structure Caches.Ahead (n : Counters) (c d : Caches α) : Prop where
  numbering : c.numbering = d.numbering.later n.generations n.overflows
  pool : Pool.Ahead n.places n.tally c.pool d.pool

namespace Caches

/-- Caches with a sound pool are ahead of themselves by nothing. -/
theorem Ahead.refl {c : Caches α} (hc : c.pool.Sound) : Ahead ⟨0, 0, 0, 0⟩ c c := by
  refine ⟨rfl, hc, hc, ?_, rfl, (zero_add _).symm⟩
  intro a
  have hentries : (c.pool.partition a).entries.map (Entry.renumber (· + 0)) =
      (c.pool.partition a).entries :=
    (List.map_congr_left fun _ _ => rfl).trans (List.map_id _)
  rw [Pool.cell, Cell.renumber, Partition.renumber, hentries]

theorem ahead_reset {c : Caches α} (hc : c.pool.Sound) (settings : Settings) :
    Ahead c.reset.counters c.reset
      (new { settings with
        numbering := ⟨c.numbering.limit, c.numbering.shapeBytes⟩
        budgets := c.pool.budgets }) := by
  refine ⟨?_, .clearAll hc poolName⟩
  simp only [counters, numbering_reset, Numbering.clear, new, Numbering.empty, Numbering.later,
    Nat.zero_add]

end Caches

namespace Diary

/-- Caches that are ahead, with the replies that they must have given. -/
structure Ahead (n : Counters) (d e : Diary α) : Prop where
  caches : d.caches.Ahead n e.caches
  replies : d.replies = e.replies.map (Reply.later n.generations)

theorem Ahead.note {n : Counters} {d e : Diary α} (h : Ahead n d e) {r s : Reply α}
    (hr : r = s.later n.generations) : Ahead n (d.note r) (e.note s) := by
  refine ⟨h.caches, ?_⟩
  rw [Diary.note, Diary.note, hr, h.replies]
  rfl

theorem Ahead.setPool {n : Counters} {d e : Diary α} (h : Ahead n d e) {p q : Pool α}
    (hpool : Pool.Ahead n.places n.tally p q) : Ahead n (d.setPool p) (e.setPool q) :=
  ⟨⟨h.caches.numbering, hpool⟩, h.replies⟩

theorem Ahead.reuseOrBuild {n : Counters} {d e : Diary α} (h : Ahead n d e) (key : ArtifactKey)
    (a : Address) (size : α → Nat) (built : Except Unit α) {during : Diary α → Diary α}
    (hduring : ∀ {x y : Diary α}, Ahead n x y → Ahead n (during x) (during y)) :
    Ahead n (d.reuseOrBuild key a size (modifyGet fun x => (built, during x)))
      (e.reuseOrBuild key a size (modifyGet fun x => (built, during x))) := by
  have hanswer := h.caches.pool.answer (.get key a)
  have hpool := h.caches.pool.change (.get key a)
  rw [Pool.answer, Pool.answer] at hanswer
  rw [Pool.change, Pool.change] at hpool
  rw [Diary.reuseOrBuild, Diary.reuseOrBuild]
  -- The answers are the same, so both look-ups hit or both miss.
  rcases hp : d.caches.pool.get key a with ⟨_ | handle, p⟩ <;>
    rcases hq : e.caches.pool.get key a with ⟨_ | handle', q⟩ <;>
    rw [hp, hq] at hanswer hpool
  · rw [Pool.reuseOrBuild_of_miss changePool_changesOnly hp,
      Pool.reuseOrBuild_of_miss changePool_changesOnly hq]
    have hafter := hduring (h.setPool hpool)
    cases built with
    | error fault => exact hafter.note rfl
    | ok item =>
      have hput := hafter.caches.pool.change (.put key a item (size item))
      have houtcome := Pool.Answer.put.inj (hafter.caches.pool.answer (.put key a item (size item)))
      exact (hafter.setPool hput).note (congrArg (Reply.built item) houtcome)
  · cases hanswer
  · cases hanswer
  · rw [Pool.reuseOrBuild_of_hit changePool_changesOnly hp,
      Pool.reuseOrBuild_of_hit changePool_changesOnly hq]
    exact (h.setPool hpool).note (congrArg Reply.answer hanswer)

end Diary

/-! ### Operations and runs -/

variable [Artifact α] {n : Counters}

namespace Caches.Ahead

variable {c d : Caches α}

theorem reply (h : Ahead n c d) (o : Operation α) :
    (c.operate o).1 = (d.operate o).1.later n.generations := by
  cases o with
  | extract scope root memo =>
    rw [operate, operate, h.numbering, extract_later]
    rfl
  | number x =>
    rw [operate, operate, h.numbering]
    exact Numbering.reply_later ..
  | use o => exact congrArg Reply.answer (h.pool.operate o).1
  | reset => rfl

theorem operate (h : Ahead n c d) (o : Operation α) : Ahead n (c.operate o).2 (d.operate o).2 := by
  cases o with
  | extract scope root memo =>
    refine ⟨?_, h.pool⟩
    rw [Caches.operate, Caches.operate, h.numbering, extract_later]
    rfl
  | number x =>
    refine ⟨?_, h.pool⟩
    rw [Caches.operate, Caches.operate, h.numbering]
    exact Numbering.act_later ..
  | use o => exact ⟨h.numbering, (h.pool.operate o).2⟩
  | reset =>
    refine ⟨?_, h.pool.change .clearAll⟩
    rw [Caches.operate, Caches.operate, numbering_reset, numbering_reset, h.numbering]
    exact Numbering.clear_later ..

end Caches.Ahead

namespace Diary

theorem Ahead.operate {d e : Diary α} (h : Ahead n d e) (o : Caches.Operation α) :
    Ahead n (d.operate o) (e.operate o) :=
  ⟨h.caches.operate o, (h.note (h.caches.reply o)).replies⟩

mutual

theorem Ahead.serve {d e : Diary α} (h : Ahead n d e) (w : Work α) : Ahead n (d.serve w) (e.serve w) := by
  cases w with
  | operation o =>
    rw [Diary.serve, Diary.serve]
    exact h.operate o
  | reuseOrBuild key a size during built =>
    rw [Diary.serve, Diary.serve]
    exact h.reuseOrBuild key a size built fun hxy => hxy.serveAll during

theorem Ahead.serveAll {d e : Diary α} (h : Ahead n d e) (ws : List (Work α)) :
    Ahead n (d.serveAll ws) (e.serveAll ws) := by
  cases ws with
  | nil =>
    rw [Diary.serveAll, Diary.serveAll]
    exact h
  | cons w ws =>
    rw [Diary.serveAll, Diary.serveAll]
    exact (h.serve w).serveAll ws

end

end Diary

/-! ### After a reset -/

namespace Caches

/-- From caches that any run leads to, a reset leads to caches that give every later run the replies of
new caches with the limits then in force, and end as these do. The generation, the places, the overflows
and the tally are ahead all along by what they were right after the reset. -/
theorem reset_leaves_counters (settings : Settings) (before after : List (Work α)) :
    let used := ((Diary.start (new settings)).serveAll before).caches.reset
    let fresh : Caches α := new { settings with
      numbering := ⟨used.numbering.limit, used.numbering.shapeBytes⟩
      budgets := used.pool.budgets }
    let x := (Diary.start used).serveAll after
    let y := (Diary.start fresh).serveAll after
    x.replies = y.replies.map (Reply.later used.numbering.generation) ∧
      x.caches.numbering =
        y.caches.numbering.later used.numbering.generation used.numbering.overflows ∧
      (∀ a, x.caches.pool.partition a =
        (y.caches.pool.partition a).renumber (· + used.pool.nextSeq)) ∧
      x.caches.pool.budgets = y.caches.pool.budgets ∧
      x.caches.pool.nextSeq = y.caches.pool.nextSeq + used.pool.nextSeq ∧
      x.caches.pool.tally = used.pool.tally + y.caches.pool.tally := by
  intro used fresh x y
  have hsound : ((Diary.start (new settings)).serveAll before).caches.pool.Sound := by
    -- A run is ahead of itself by nothing, and soundness goes with that.
    have hself : (Diary.start (new settings : Caches α)).Ahead ⟨0, 0, 0, 0⟩ (.start (new settings)) :=
      ⟨.refl (Pool.sound_new ..), rfl⟩
    exact (hself.serveAll before).caches.pool.sound
  have hstart : (Diary.start used).Ahead used.counters (.start fresh) :=
    ⟨ahead_reset hsound settings, rfl⟩
  have hend := hstart.serveAll after
  exact ⟨hend.replies, hend.caches.numbering, hend.caches.pool.partition, hend.caches.pool.budgets,
    hend.caches.pool.nextSeq, hend.caches.pool.tally⟩

/- The numbering has room for one shape, and has overflowed before the reset. -/
example :
    let table : JoinTable := ⟨.perfect 0 0, .oneToOne, some ⟨1⟩, 0, 5, Array.replicate 5 0⟩
    let a : Address := ⟨.perfect, 0⟩
    let number (kind : OperatorKind) : Work JoinTable :=
      .operation (.number (.resolve [.node kind "" []]))
    let work : List (Work JoinTable) :=
      [number .scan, .reuseOrBuild ⟨1⟩ a JoinTable.size [number .sort] (.ok table), number .sort]
    let settings := { Settings.standard with numbering := ⟨16, 16⟩ }
    let used := ((Diary.start (new settings)).serveAll work).caches.reset
    let counts (c : Caches JoinTable) :=
      (c.numbering.generation, c.numbering.overflows, c.pool.nextSeq, c.pool.tally.accepted)
    counts used = (2, 1, 1, 1) ∧
      counts ((Diary.start used).serveAll work).caches = (3, 2, 2, 2) ∧
      counts ((Diary.start (new settings)).serveAll work).caches = (1, 1, 1, 1) := by
  decide +kernel

end Caches

end PlanReuse
