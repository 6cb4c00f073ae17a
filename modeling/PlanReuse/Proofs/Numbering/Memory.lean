import PlanReuse.Numbering.Extraction
import PlanReuse.Proofs.Lookup

/-!
# What a memo holds

The shape of a plan without a memo, and what the memo of a query holds of it. Nodes are numbered when
they are made, so a number names one node; then a memo only spares work.
-/

namespace PlanReuse

/-! ### Shapes without a memo -/

namespace QueryScope

mutual

/-- The shape of a plan, or none if it is not supported. -/
def shapeOf (scope : QueryScope) : Plan → Except JoinFault (Option Shape)
  | .node id op inputs =>
    match shapesOf scope inputs with
    | .error fault => .error fault
    | .ok none => .ok none
    | .ok (some shapes) =>
      match scope.judge id op shapes with
      | .error fault => .error fault
      | .ok v => .ok v.shape?

def shapesOf (scope : QueryScope) : List Plan → Except JoinFault (Option (List Shape))
  | [] => .ok (some [])
  | p :: ps =>
    match shapeOf scope p with
    | .error fault => .error fault
    | .ok s =>
      match shapesOf scope ps with
      | .error fault => .error fault
      | .ok ss => .ok (s.bind fun s => ss.map (s :: ·))

end

end QueryScope

/-! ### Numbers of nodes -/

/-- No two nodes have one number. -/
def Plan.Identified (ns : List Plan) : Prop := ∀ n ∈ ns, ∀ m ∈ ns, n.id = m.id → n = m

/-- Nodes taken from a list in which every number stands once. -/
theorem Plan.identified_of_nodup {ns : List Plan} (ms : List Plan) (hms : (ms.map Plan.id).Nodup)
    (h : ∀ n ∈ ns, n ∈ ms) : Plan.Identified ns :=
  fun n hn m hm hid => List.inj_on_of_nodup_map hms (h n hn) (h m hm) hid

/-! ### Faithful memos -/

/-- Every verdict in the memo on one of the nodes is the one its shape gives. -/
def Memo.Faithful (memo : Memo) (scope : QueryScope) (ns : List Plan) : Prop :=
  ∀ n ∈ ns, ∀ v, memo.find? n.id = some v → scope.shapeOf n = .ok v.shape?

theorem Memo.find?_insert_of_ne (memo : Memo) {id id' : Nat} (h : id' ≠ id) (v : Verdict) :
    (memo.insert id v).find? id' = memo.find? id' := by
  have hne : (id' == id) = false := beq_eq_false_iff_ne.mpr h
  rw [find?, insert, List.lookup_cons, hne]
  exact lookup_filter_ne h memo.verdicts

theorem Memo.faithful_empty (scope : QueryScope) (ns : List Plan) : Memo.empty.Faithful scope ns := by
  intro n _ v hv
  cases hv

variable {scope : QueryScope} {ns : List Plan} {memo : Memo}

theorem Memo.Faithful.insert (hm : memo.Faithful scope ns) (hids : Plan.Identified ns) {n : Plan}
    (hn : n ∈ ns) {v : Verdict} (hv : scope.shapeOf n = .ok v.shape?) :
    (memo.insert n.id v).Faithful scope ns := by
  intro m hmem w hw
  by_cases hid : m.id = n.id
  · rw [hid, Memo.find?_insert_self] at hw
    rw [hids m hmem n hn hid, hv, Option.some.inj hw]
  · rw [Memo.find?_insert_of_ne memo hid] at hw
    exact hm m hmem w hw

namespace QueryScope

mutual

/-- A visit gives the shape, whatever a faithful memo holds, and leaves the memo faithful. -/
theorem visit_of_faithful (hids : Plan.Identified ns) : ∀ (p : Plan) {memo : Memo},
    (∀ n ∈ p.nodes, n ∈ ns) → memo.Faithful scope ns →
      (scope.visit memo p).1 = scope.shapeOf p ∧ (scope.visit memo p).2.Faithful scope ns
  | .node id op inputs, memo, hnodes, hm => by
    have hself : Plan.node id op inputs ∈ ns := hnodes _ (List.mem_cons_self ..)
    have hinputs : ∀ n ∈ Plan.nodesAll inputs, n ∈ ns :=
      fun n hn => hnodes n (List.mem_cons_of_mem _ hn)
    cases hfind : memo.find? id with
    | some v =>
      rw [visit, hfind]
      exact ⟨(hm _ hself v hfind).symm, hm⟩
    | none =>
      obtain ⟨hshapes, hm'⟩ := visitAll_of_faithful hids inputs hinputs hm
      rcases hall : scope.visitAll memo inputs with ⟨fault | _ | shapes, after⟩ <;>
        rw [hall] at hshapes hm'
      · rw [visit, hfind, shapeOf, ← hshapes]
        simp only [hall]
        exact ⟨trivial, hm'⟩
      · have hshape : scope.shapeOf (.node id op inputs) = .ok none := by
          rw [shapeOf, ← hshapes]
        rw [visit, hfind]
        simp only [hall]
        exact ⟨hshape.symm, hm'.insert hids hself (v := .refused .input) hshape⟩
      · rcases hjudge : scope.judge id op shapes with fault | v
        · have hshape : scope.shapeOf (.node id op inputs) = .error fault := by
            rw [shapeOf, ← hshapes]
            simp only [hjudge]
          rw [visit, hfind]
          simp only [hall, hjudge]
          exact ⟨hshape.symm, hm'⟩
        · have hshape : scope.shapeOf (.node id op inputs) = .ok v.shape? := by
            rw [shapeOf, ← hshapes]
            simp only [hjudge]
          rw [visit, hfind]
          simp only [hall, hjudge]
          exact ⟨hshape.symm, hm'.insert hids hself hshape⟩

theorem visitAll_of_faithful (hids : Plan.Identified ns) : ∀ (ps : List Plan) {memo : Memo},
    (∀ n ∈ Plan.nodesAll ps, n ∈ ns) → memo.Faithful scope ns →
      (scope.visitAll memo ps).1 = scope.shapesOf ps ∧ (scope.visitAll memo ps).2.Faithful scope ns
  | [], memo, _, hm => ⟨rfl, hm⟩
  | p :: ps, memo, hnodes, hm => by
    obtain ⟨hshape, hm'⟩ := visit_of_faithful hids p
      (fun n hn => hnodes n (List.mem_append_left _ hn)) hm
    rcases hvisit : scope.visit memo p with ⟨fault | s, after⟩ <;> rw [hvisit] at hshape hm'
    · rw [visitAll, shapesOf, ← hshape, hvisit]
      exact ⟨rfl, hm'⟩
    · obtain ⟨hshapes, hm''⟩ := visitAll_of_faithful hids ps
        (fun n hn => hnodes n (List.mem_append_right _ hn)) hm'
      rcases hall : scope.visitAll after ps with ⟨fault | ss, last⟩ <;> rw [hall] at hshapes hm''
      · rw [visitAll, shapesOf, ← hshape, hvisit]
        simp only [hall, ← hshapes]
        exact ⟨trivial, hm''⟩
      · rw [visitAll, shapesOf, ← hshape, hvisit]
        simp only [hall, ← hshapes]
        exact ⟨trivial, hm''⟩

end

/-! ### The memo of a query -/

/-- The memo after some plans have been extracted one after the other, beginning with a given one. -/
def memoAfter (scope : QueryScope) (memo : Memo) (ps : List Plan) : Memo :=
  ps.foldl (fun memo p => (scope.visit memo p).2) memo

theorem faithful_memoAfter (hids : Plan.Identified ns) {ps : List Plan}
    (hnodes : ∀ n ∈ Plan.nodesAll ps, n ∈ ns) (hm : memo.Faithful scope ns) :
    (scope.memoAfter memo ps).Faithful scope ns := by
  induction ps generalizing memo with
  | nil => exact hm
  | cons p ps ih =>
    obtain ⟨_, hm'⟩ := visit_of_faithful hids p (fun n hn => hnodes n (List.mem_append_left _ hn)) hm
    exact ih (fun n hn => hnodes n (List.mem_append_right _ hn)) hm'

/-- In a query whose nodes have numbers of their own, a plan is given its shape, whichever plans of the
query have been extracted before. -/
theorem visit_memoAfter {before : List Plan} {p : Plan}
    (hids : Plan.Identified (Plan.nodesAll (p :: before))) :
    (scope.visit (scope.memoAfter .empty before) p).1 = scope.shapeOf p := by
  have hm : (scope.memoAfter .empty before).Faithful scope (Plan.nodesAll (p :: before)) :=
    faithful_memoAfter hids (fun n hn => List.mem_append_right _ hn) (Memo.faithful_empty _ _)
  exact (visit_of_faithful hids p (fun n hn => List.mem_append_left _ hn) hm).1

end QueryScope

end PlanReuse
