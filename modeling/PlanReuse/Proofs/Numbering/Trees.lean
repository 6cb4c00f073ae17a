import PlanReuse.Proofs.Numbering.Segments
import PlanReuse.Proofs.Numbering.Support

/-!
# The join trees of a query

The extractions of a query share a memo and may each name a join tree of its own. The memo knows a node by
its number and nothing else, so the shape of a left-deep join is settled by the extraction that reaches
the join first, and comes from the tree of that one. Another extraction gets the levels of its own tree
exactly if the two trees read the same.
-/

namespace PlanReuse

/-! ### Nodes below a node -/

namespace Plan

mutual

theorem size_le_of_mem_nodes : ∀ {p n : Plan}, n ∈ p.nodes → n.size ≤ p.size
  | .node id o inputs, n, h => by
    rcases List.mem_cons.mp h with rfl | h
    · exact Nat.le_refl _
    · exact Nat.le_succ_of_le (size_le_of_mem_nodesAll h)

theorem size_le_of_mem_nodesAll : ∀ {ps : List Plan} {n : Plan}, n ∈ nodesAll ps → n.size ≤ sizeAll ps
  | [], n, h => by cases h
  | p :: ps, n, h => by
    rw [sizeAll]
    rcases List.mem_append.mp h with h | h
    · exact Nat.le_add_right_of_le (size_le_of_mem_nodes h)
    · exact Nat.le_add_left_of_le (size_le_of_mem_nodesAll h)

end

/-- No node is found below itself. -/
theorem not_mem_nodesAll_inputs (id : Nat) (o : Operator) (inputs : List Plan) :
    Plan.node id o inputs ∉ nodesAll inputs := by
  intro h
  have hsize := size_le_of_mem_nodesAll h
  rw [size] at hsize
  exact Nat.not_succ_le_self _ hsize

end Plan

/-! ### Memos that grow -/

/-- A verdict that a visit may put on a node. -/
def QueryScope.Judges (scope : QueryScope) (n : Plan) (v : Verdict) : Prop :=
  v = .refused .input ∨ ∃ shapes, scope.judge n.id n.operator shapes = .ok v

namespace Memo

variable {scope : QueryScope} {ns ms : List Plan} {memo after last : Memo}

/-- What visits of some nodes can do to a memo: every verdict is kept, and one that is added is put on one
of the nodes under the given scope. -/
structure Grows (scope : QueryScope) (ns : List Plan) (memo after : Memo) : Prop where
  keeps : ∀ id v, memo.find? id = some v → after.find? id = some v
  adds : ∀ id v, after.find? id = some v →
    memo.find? id = some v ∨ ∃ n ∈ ns, n.id = id ∧ scope.Judges n v

theorem Grows.refl (scope : QueryScope) (ns : List Plan) (memo : Memo) : Grows scope ns memo memo :=
  ⟨fun _ _ h => h, fun _ _ h => Or.inl h⟩

theorem Grows.mono (h : Grows scope ns memo after) (hms : ∀ n ∈ ns, n ∈ ms) :
    Grows scope ms memo after := by
  refine ⟨h.keeps, fun id v hv => (h.adds id v hv).imp_right ?_⟩
  rintro ⟨n, hn, hjudged⟩
  exact ⟨n, hms n hn, hjudged⟩

theorem Grows.trans (h : Grows scope ns memo after) (h' : Grows scope ns after last) :
    Grows scope ns memo last := by
  refine ⟨fun id v hv => h'.keeps id v (h.keeps id v hv), fun id v hv => ?_⟩
  rcases h'.adds id v hv with hold | hnew
  · exact h.adds id v hold
  · exact Or.inr hnew

theorem Grows.insert (h : Grows scope ns memo after) {n : Plan} (hn : n ∈ ns)
    (hnew : memo.find? n.id = none) {v : Verdict} (hv : scope.Judges n v) :
    Grows scope ns memo (after.insert n.id v) := by
  constructor
  · intro id w hw
    have hne : id ≠ n.id := by
      rintro rfl
      rw [hnew] at hw
      cases hw
    rw [find?_insert_of_ne after hne]
    exact h.keeps id w hw
  · intro id w hw
    by_cases hid : id = n.id
    · subst hid
      rw [find?_insert_self] at hw
      cases hw
      exact Or.inr ⟨n, hn, rfl, hv⟩
    · rw [find?_insert_of_ne after hid] at hw
      exact h.adds id w hw

/-- The shape of a node has the shapes of its inputs below it. -/
def Coherent (memo : Memo) (ns : List Plan) : Prop :=
  ∀ n ∈ ns, ∀ s, memo.find? n.id = some (.shape s) →
    List.Forall₂ (fun m t => memo.find? m.id = some (.shape t)) n.inputs s.inputs

theorem coherent_empty (ns : List Plan) : Memo.empty.Coherent ns := by
  intro n _ s hs
  cases hs

theorem Coherent.insert (hm : memo.Coherent ns) (hids : Plan.Identified ns) {n : Plan} (hn : n ∈ ns)
    (hnew : memo.find? n.id = none) {v : Verdict} (hv : ∀ s, v = .shape s →
      List.Forall₂ (fun m t => memo.find? m.id = some (.shape t)) n.inputs s.inputs) :
    (memo.insert n.id v).Coherent ns := by
  intro m hmem s hs
  have hkeep {k : Plan} {t : Shape} (h : memo.find? k.id = some (.shape t)) :
      (memo.insert n.id v).find? k.id = some (.shape t) := by
    rw [find?_insert_of_ne memo]
    · exact h
    · intro hid
      rw [hid, hnew] at h
      cases h
  by_cases hid : m.id = n.id
  · rw [hid, find?_insert_self] at hs
    rw [hids m hmem n hn hid]
    exact (hv s (Option.some.inj hs)).imp fun _ _ => hkeep
  · rw [find?_insert_of_ne memo hid] at hs
    exact (hm m hmem s hs).imp fun _ _ => hkeep

mutual

/-- The shapes that a coherent memo holds of the nodes of a plan are the parts of the shape it holds of the
plan. -/
theorem Coherent.forall₂_parts (hm : memo.Coherent ns) : ∀ {p : Plan} {s : Shape},
    (∀ n ∈ p.nodes, n ∈ ns) → memo.find? p.id = some (.shape s) →
      List.Forall₂ (fun n t => memo.find? n.id = some (.shape t)) p.nodes s.parts
  | .node id o inputs, .node k text shapes, hnodes, h => by
    have hinputs := hm _ (hnodes _ List.mem_cons_self) _ h
    exact .cons h (hm.forall₂_partsAll (fun n hn => hnodes n (List.mem_cons_of_mem _ hn)) hinputs)

theorem Coherent.forall₂_partsAll (hm : memo.Coherent ns) : ∀ {ps : List Plan} {ss : List Shape},
    (∀ n ∈ Plan.nodesAll ps, n ∈ ns) →
      List.Forall₂ (fun n t => memo.find? n.id = some (.shape t)) ps ss →
        List.Forall₂ (fun n t => memo.find? n.id = some (.shape t)) (Plan.nodesAll ps) (Shape.partsAll ss)
  | [], [], _, _ => .nil
  | p :: ps, s :: ss, hnodes, h => by
    obtain ⟨hp, hps⟩ := List.forall₂_cons.mp h
    exact List.rel_append (hm.forall₂_parts (fun n hn => hnodes n (List.mem_append_left _ hn)) hp)
      (hm.forall₂_partsAll (fun n hn => hnodes n (List.mem_append_right _ hn)) hps)

end

end Memo

namespace QueryScope

variable {ns : List Plan}

/-! ### One visit -/

mutual

theorem grows_visit (scope : QueryScope) : ∀ (p : Plan) (memo : Memo),
    Memo.Grows scope p.nodes memo (scope.visit memo p).2
  | .node id o inputs, memo => by
    have hall : Memo.Grows scope (Plan.nodes (.node id o inputs)) memo (scope.visitAll memo inputs).2 :=
      (grows_visitAll scope inputs memo).mono fun n hn => List.mem_cons_of_mem _ hn
    have hself : Plan.node id o inputs ∈ Plan.nodes (.node id o inputs) := List.mem_cons_self
    rw [visit]
    cases hfind : memo.find? id with
    | some v => exact .refl scope _ memo
    | none =>
      rcases h : scope.visitAll memo inputs with ⟨fault | _ | shapes, after⟩ <;> rw [h] at hall
      · exact hall
      · exact hall.insert hself hfind (Or.inl rfl)
      · rcases hjudge : scope.judge id o shapes with fault | v <;> simp only [hjudge]
        · exact hall
        · exact hall.insert hself hfind (Or.inr ⟨shapes, hjudge⟩)

theorem grows_visitAll (scope : QueryScope) : ∀ (ps : List Plan) (memo : Memo),
    Memo.Grows scope (Plan.nodesAll ps) memo (scope.visitAll memo ps).2
  | [], memo => .refl scope _ memo
  | p :: ps, memo => by
    have hfirst : Memo.Grows scope (Plan.nodesAll (p :: ps)) memo (scope.visit memo p).2 :=
      (grows_visit scope p memo).mono fun n hn => List.mem_append_left _ hn
    rw [visitAll]
    rcases h : scope.visit memo p with ⟨fault | s, after⟩ <;> rw [h] at hfirst
    · exact hfirst
    · have hrest : Memo.Grows scope (Plan.nodesAll (p :: ps)) after (scope.visitAll after ps).2 :=
        (grows_visitAll scope ps after).mono fun n hn => List.mem_append_right _ hn
      rcases hall : scope.visitAll after ps with ⟨fault | ss, last⟩ <;> rw [hall] at hrest <;>
        simp only [hall]
      · exact hfirst.trans hrest
      · exact hfirst.trans hrest

end

theorem inputs_of_judge {scope : QueryScope} {node : Nat} {o : Operator} {shapes : List Shape} {s : Shape}
    (h : scope.judge node o shapes = .ok (.shape s)) : s.inputs = shapes := by
  rw [judge] at h
  split at h
  · cases h
  · split at h
    · cases h
    · split at h
      · cases h
      · cases h
        rfl

mutual

/-- A visit keeps a memo coherent, and the shape it gives is the one that the memo then holds. -/
theorem coherent_visit (scope : QueryScope) (hids : Plan.Identified ns) : ∀ (p : Plan) {memo : Memo},
    (∀ n ∈ p.nodes, n ∈ ns) → memo.Coherent ns →
      (scope.visit memo p).2.Coherent ns ∧ ∀ s, (scope.visit memo p).1 = .ok (some s) →
        (scope.visit memo p).2.find? p.id = some (.shape s)
  | .node id o inputs, memo, hnodes, hm => by
    have hself : Plan.node id o inputs ∈ ns := hnodes _ List.mem_cons_self
    have hinputs : ∀ n ∈ Plan.nodesAll inputs, n ∈ ns := fun n hn => hnodes n (List.mem_cons_of_mem _ hn)
    obtain ⟨hafter, hshapes⟩ := coherent_visitAll scope hids inputs hinputs hm
    have hgrows := grows_visitAll scope inputs memo
    rw [visit]
    cases hfind : memo.find? id with
    | some v =>
      refine ⟨hm, fun s hs => ?_⟩
      cases v with
      | shape t =>
        cases hs
        exact hfind
      | refused why => cases hs
    | none =>
      rcases h : scope.visitAll memo inputs with ⟨fault | _ | shapes, after⟩ <;>
        rw [h] at hafter hshapes hgrows
      · exact ⟨hafter, fun s hs => by cases hs⟩
      all_goals
        -- The node is not below itself, so the visit of its inputs has not judged it.
        have hnew : after.find? id = none := by
          cases hfound : after.find? id with
          | none => rfl
          | some v =>
            rcases hgrows.adds id v hfound with hold | ⟨n, hn, hid, _⟩
            · rw [hfind] at hold
              cases hold
            · rw [hids n (hinputs n hn) _ hself hid] at hn
              exact absurd hn (Plan.not_mem_nodesAll_inputs id o inputs)
      · refine ⟨hafter.insert hids hself hnew ?_, fun s hs => by cases hs⟩
        intro s hs
        cases hs
      · rcases hjudge : scope.judge id o shapes with fault | v <;> simp only [hjudge]
        · exact ⟨hafter, fun s hs => by cases hs⟩
        · refine ⟨hafter.insert hids hself hnew fun s hs => ?_, fun s hs => ?_⟩
          · rw [hs] at hjudge
            rw [inputs_of_judge hjudge]
            exact hshapes shapes rfl
          · cases v with
            | shape t =>
              cases hs
              exact after.find?_insert_self id _
            | refused why => cases hs

theorem coherent_visitAll (scope : QueryScope) (hids : Plan.Identified ns) :
    ∀ (ps : List Plan) {memo : Memo}, (∀ n ∈ Plan.nodesAll ps, n ∈ ns) → memo.Coherent ns →
      (scope.visitAll memo ps).2.Coherent ns ∧ ∀ ss, (scope.visitAll memo ps).1 = .ok (some ss) →
        List.Forall₂ (fun n t => (scope.visitAll memo ps).2.find? n.id = some (.shape t)) ps ss
  | [], memo, _, hm => by
    refine ⟨hm, fun ss hss => ?_⟩
    cases hss
    exact .nil
  | p :: ps, memo, hnodes, hm => by
    obtain ⟨hafter, hshape⟩ := coherent_visit scope hids p
      (fun n hn => hnodes n (List.mem_append_left _ hn)) hm
    rw [visitAll]
    rcases h : scope.visit memo p with ⟨fault | s, after⟩ <;> rw [h] at hafter hshape
    · exact ⟨hafter, fun ss hss => by cases hss⟩
    · obtain ⟨hlast, hshapes⟩ := coherent_visitAll scope hids ps
        (fun n hn => hnodes n (List.mem_append_right _ hn)) hafter
      have hgrows := grows_visitAll scope ps after
      rcases hall : scope.visitAll after ps with ⟨fault | rest, last⟩ <;>
        rw [hall] at hlast hshapes hgrows <;> simp only [hall]
      · exact ⟨hlast, fun ss hss => by cases hss⟩
      · refine ⟨hlast, fun ss hss => ?_⟩
        obtain ⟨t, rfl, hrest⟩ := Option.bind_eq_some_iff.mp (Except.ok.inj hss)
        obtain ⟨ts, rfl, rfl⟩ := Option.map_eq_some_iff.mp hrest
        exact .cons (hgrows.keeps _ _ (hshape t rfl)) (hshapes ts rfl)

end

end QueryScope

/-! ### The extractions of a query -/

/-- A plan to extract, and its join tree if it has one. -/
structure Task where
  tree : Option Nat
  plan : Plan

namespace QueryScope

variable {scope : QueryScope}

/-- The same query with another join tree. -/
def under (scope : QueryScope) (tree : Option Nat) : QueryScope := { scope with tree }

/-- The memo after some extractions that share it, one after the other. -/
def memoOf (scope : QueryScope) (tasks : List Task) : Memo :=
  tasks.foldl (fun memo task => ((scope.under task.tree).visit memo task.plan).2) .empty

theorem memoOf_concat (scope : QueryScope) (tasks : List Task) (task : Task) :
    scope.memoOf (tasks ++ [task]) =
      ((scope.under task.tree).visit (scope.memoOf tasks) task.plan).2 := by
  rw [memoOf, List.foldl_append]
  rfl

/-- The text of the levels of a join tree, if the query has the tree. -/
def treeText? (scope : QueryScope) (tree : Nat) : Option String :=
  (scope.trees.find? tree).map fun levels => String.ofList (scope.levelsText 0 levels)

theorem levelsText_under (scope : QueryScope) (tree : Option Nat) (depth : Nat) (ls : List JoinLevel) :
    (scope.under tree).levelsText depth ls = scope.levelsText depth ls := by
  induction ls generalizing depth with
  | nil => rfl
  | cons l ls ih =>
    rw [levelsText, levelsText, ih]
    rfl

/-- The shape of a left-deep join has the text of the tree that the extraction names. -/
theorem params_of_judge {tree : Option Nat} {node : Nat} {shapes : List Shape} {s : Shape}
    (h : (scope.under tree).judge node .leftDeepJoin shapes = .ok (.shape s)) :
    ∃ t, tree = some t ∧ scope.treeText? t = some s.params := by
  rw [judge, joinLevels, levelsOf] at h
  cases tree with
  | none => cases h
  | some t =>
    refine ⟨t, rfl, ?_⟩
    have htree : (scope.under (some t)).tree = some t := rfl
    have htrees : (scope.under (some t)).trees = scope.trees := rfl
    simp only [htree, htrees] at h
    rw [treeText?]
    cases hlevels : scope.trees.find? t with
    | none =>
      simp only [hlevels] at h
      cases h
    | some levels =>
      simp only [hlevels] at h
      split at h
      · cases h
      · next hjoin =>
        split at hjoin
        · cases hjoin
          split at h
          · cases h
          · rw [params] at h
            cases h
            rw [levelsText_under]
            rfl
        · cases hjoin

variable {tasks : List Task}

theorem coherent_memoOf (scope : QueryScope) (hids : Plan.Identified ns)
    (hnodes : ∀ task ∈ tasks, ∀ n ∈ task.plan.nodes, n ∈ ns) : (scope.memoOf tasks).Coherent ns := by
  induction tasks using List.reverseRecOn with
  | nil => exact Memo.coherent_empty ns
  | append_singleton tasks task ih =>
    rw [memoOf_concat]
    exact (coherent_visit _ hids task.plan (hnodes task (List.mem_append_right _ List.mem_cons_self))
      (ih fun t ht => hnodes t (List.mem_append_left _ ht))).1

/-- Every verdict in a shared memo was put there by one of the extractions, the first to reach the node. -/
theorem exists_first_of_find? {id : Nat} {v : Verdict} (h : (scope.memoOf tasks).find? id = some v) :
    ∃ before first after, tasks = before ++ first :: after ∧
      (scope.memoOf before).find? id = none ∧ (scope.memoOf (before ++ [first])).find? id = some v := by
  induction tasks using List.reverseRecOn with
  | nil => cases h
  | append_singleton tasks task ih =>
    cases hold : (scope.memoOf tasks).find? id with
    | none => exact ⟨tasks, task, [], rfl, hold, h⟩
    | some w =>
      have hkept := (grows_visit (scope.under task.tree) task.plan (scope.memoOf tasks)).keeps id w hold
      rw [← memoOf_concat, h] at hkept
      cases hkept
      obtain ⟨before, first, after, rfl, hnone, hfound⟩ := ih hold
      exact ⟨before, first, after ++ [task], by rw [List.append_assoc, List.cons_append], hnone, hfound⟩

/-- The shape that a shared memo holds of a left-deep join has the text of the tree of the extraction that
reached the join first. -/
theorem exists_first_tree (hids : Plan.Identified ns)
    (hnodes : ∀ task ∈ tasks, ∀ n ∈ task.plan.nodes, n ∈ ns) {n : Plan} (hn : n ∈ ns)
    (hjoin : n.operator = .leftDeepJoin) {s : Shape}
    (h : (scope.memoOf tasks).find? n.id = some (.shape s)) :
    ∃ before first after t, tasks = before ++ first :: after ∧
      (scope.memoOf before).contains n.id = false ∧
      (scope.memoOf (before ++ [first])).contains n.id = true ∧
      first.tree = some t ∧ scope.treeText? t = some s.params := by
  obtain ⟨before, first, after, rfl, hnone, hfound⟩ := exists_first_of_find? h
  have hgrows := grows_visit (scope.under first.tree) first.plan (scope.memoOf before)
  rw [← memoOf_concat] at hgrows
  rcases hgrows.adds n.id _ hfound with hold | ⟨m, hm, hid, hjudged⟩
  · rw [hnone] at hold
    cases hold
  · have hfirst : first ∈ before ++ first :: after := List.mem_append_right _ List.mem_cons_self
    rw [hids m (hnodes first hfirst m hm) n hn hid] at hjudged
    rcases hjudged with hrefused | ⟨shapes, hjudge⟩
    · cases hrefused
    · rw [hjoin] at hjudge
      obtain ⟨t, ht, htext⟩ := params_of_judge hjudge
      refine ⟨before, first, after, t, rfl, ?_, ?_, ht, htext⟩
      · rw [Memo.contains, hnone]
        rfl
      · rw [Memo.contains, hfound]
        rfl

/-- A code that can be a key is that of a resolution. -/
theorem exists_resolve_of_isCacheable {p : Plan} {memo : Memo} {c : Numbering} {code : PlanCode}
    (hcode : (extract scope p memo c).outcome = .ok code) (hcacheable : code.isCacheable = true) :
    ∃ s ns, (scope.visit memo p).1 = .ok (some s) ∧ code = .ofNumbers ns ∧
      c.resolve s.parts = (some ns, (extract scope p memo c).numbering) := by
  have heffect := effect_extract scope p memo c
  rw [Extraction.effect, hcode] at heffect
  rcases hvisit : (scope.visit memo p).1 with fault | _ | s <;>
    rw [hvisit, Numbering.codeOf] at heffect
  · cases (Prod.mk.inj heffect).1
  · cases (Prod.mk.inj heffect).1
    cases hcacheable
  · rcases hresolve : c.resolve s.parts with ⟨_ | ns, d⟩ <;> simp only [hresolve] at heffect
    · cases (Prod.mk.inj heffect).1
      cases hcacheable
    · obtain ⟨hout, hnumbering⟩ := Prod.mk.inj heffect
      exact ⟨s, ns, rfl, Except.ok.inj hout, by rw [hnumbering, hresolve]⟩

/-- In the code of a plan the number of a left-deep join stands for a shape with the text of a join tree:
that of the extraction which, of all that share the memo, this one included, reached the join first. It is
the text of the tree that this extraction names exactly if the two trees have the same text. -/
theorem params_of_first_extraction (limit shapeBytes : Nat) (earlier : List Numbering.Event)
    (scope : QueryScope) (done : List Task) (tree : Option Nat) (p : Plan)
    (hids : Plan.Identified (Plan.nodesAll (p :: done.map Task.plan))) :
    let c := (Numbering.empty limit shapeBytes).afterAll earlier
    let e := extract (scope.under tree) p (scope.memoOf done) c
    ∀ code, e.outcome = .ok code → code.isCacheable = true →
      ∀ (k : Nat) (n : Plan), p.nodes[k]? = some n → n.operator = .leftDeepJoin →
        ∃ m s before first after t, code.numbers[k]? = some m ∧ e.numbering.shapeOf? m = some s ∧
          done ++ [⟨tree, p⟩] = before ++ first :: after ∧
          (scope.memoOf before).contains n.id = false ∧
          (scope.memoOf (before ++ [first])).contains n.id = true ∧
          first.tree = some t ∧ scope.treeText? t = some s.params ∧
          ∀ own, tree = some own →
            (scope.treeText? own = some s.params ↔ scope.treeText? own = scope.treeText? t) := by
  intro c e code hcode hcacheable k n hn hjoin
  let ns := Plan.nodesAll (p :: done.map Task.plan)
  have hp : ∀ n ∈ p.nodes, n ∈ ns := fun n hn => List.mem_append_left _ hn
  have hdone : ∀ task ∈ done, ∀ n ∈ task.plan.nodes, n ∈ ns := by
    intro task htask n hn
    exact List.mem_append_right _ (Plan.mem_nodesAll.mpr ⟨_, List.mem_map_of_mem htask, hn⟩)
  have hall : ∀ task ∈ done ++ [⟨tree, p⟩], ∀ n ∈ task.plan.nodes, n ∈ ns := by
    intro task htask
    rcases List.mem_append.mp htask with htask | htask
    · exact hdone task htask
    · rw [List.mem_singleton.mp htask]
      exact hp
  obtain ⟨root, numbers, hvisit, rfl, hresolve⟩ := exists_resolve_of_isCacheable hcode hcacheable
  -- The shape of the node is the one that the memo holds of it once the plan has been visited.
  obtain ⟨hcoherent, hroot⟩ := coherent_visit (scope.under tree) hids p hp (coherent_memoOf scope hids hdone)
  have hparts := hcoherent.forall₂_parts hp (hroot root hvisit)
  have hmemo := scope.memoOf_concat done ⟨tree, p⟩
  rw [← hmemo] at hparts
  obtain ⟨hk, hget⟩ := List.getElem?_eq_some_iff.mp hn
  have hk' : k < root.parts.length := hparts.length_eq ▸ hk
  have hshape : (scope.memoOf (done ++ [⟨tree, p⟩])).find? n.id = some (.shape root.parts[k]) := by
    rw [← hget]
    exact hparts.get hk hk'
  have hsound : e.numbering.Sound :=
    ((Numbering.sound_empty limit shapeBytes).afterAll earlier).afterAll
      [.extraction (scope.under tree) p (scope.memoOf done)]
  obtain ⟨m, hm, hstands⟩ := hsound.exists_number_of_part (Numbering.resolve_some hresolve).2.2
    (List.getElem?_eq_getElem hk')
  have hmem : n ∈ ns := hp n (List.mem_of_getElem? hn)
  obtain ⟨before, first, after, t, hsplit, hbefore, hafter, ht, htext⟩ :=
    exists_first_tree hids hall hmem hjoin hshape
  refine ⟨m, _, before, first, after, t, hm, hstands, hsplit, hbefore, hafter, ht, htext, ?_⟩
  intro own _
  rw [htext]

/- A query with two join trees extracts one left-deep join under the first of them. Then it extracts a plan
that has the same join, and another one over the same inputs, under the second. -/
theorem params_of_first_extraction_union :
    let trees : JoinTrees := ⟨[(0, [⟨.inner, [.binary .eq (.column 0) (.column 2)]⟩]),
      (1, [⟨.inner, [.binary .eq (.column 1) (.column 3)]⟩])]⟩
    let scope : QueryScope :=
      ⟨⟨[⟨⟨1, 1⟩, "orders", []⟩, ⟨⟨1, 2⟩, "items", []⟩]⟩, none, trees, Scalar.render⟩
    let scans : List Plan := [.node 1 (.scan ⟨1, 1⟩) [], .node 2 (.scan ⟨1, 2⟩) []]
    let first : Plan := .node 3 .leftDeepJoin scans
    let second : Plan := .node 4 .leftDeepJoin scans
    let p : Plan := .node 5 (.union true) [first, second]
    let c := (Numbering.empty 160 16).afterAll [.extraction (scope.under (some 0)) first .empty]
    let e := extract (scope.under (some 1)) p (scope.memoOf [⟨some 0, first⟩]) c
    Plan.Identified (Plan.nodesAll [p, first]) ∧
      e.outcome.toOption = some (.ofNumbers ⟨[3, 0, 1, 2, 4, 1, 2], 0⟩) ∧
      (∃ s t, e.numbering.shapeOf? 0 = some s ∧ scope.treeText? t = some s.params ∧
        (scope.treeText? 1 = some s.params ↔ scope.treeText? 1 = scope.treeText? t)) ∧
      ∃ s t, e.numbering.shapeOf? 4 = some s ∧ scope.treeText? t = some s.params ∧
        (scope.treeText? 1 = some s.params ↔ scope.treeText? 1 = scope.treeText? t) := by
  intro trees scope scans first second p c e
  have hids : Plan.Identified (Plan.nodesAll [p, first]) := by
    refine Plan.identified_of_nodup (p :: first :: second :: scans) (by decide) ?_
    intro n hn
    simp only [p, first, second, scans, Plan.nodesAll, Plan.nodes, List.nil_append, List.append_nil,
      List.cons_append, List.mem_cons, List.not_mem_nil] at hn ⊢
    tauto
  have hsome : e.outcome.toOption = some (.ofNumbers ⟨[3, 0, 1, 2, 4, 1, 2], 0⟩) := by
    clear hids
    decide +kernel +revert
  have hcode : e.outcome = .ok (.ofNumbers ⟨[3, 0, 1, 2, 4, 1, 2], 0⟩) := by
    rcases h : e.outcome with fault | code <;> rw [h] at hsome <;> cases hsome
    rfl
  have hall := params_of_first_extraction 160 16 [.extraction (scope.under (some 0)) first .empty] scope
    [⟨some 0, first⟩] (some 1) p hids _ hcode (by decide +kernel)
  obtain ⟨_, s, _, _, _, t, hm, hs, _, _, _, _, ht, hown⟩ := hall 1 first rfl rfl
  obtain ⟨_, s', _, _, _, t', hm', hs', _, _, _, _, ht', hown'⟩ := hall 4 second rfl rfl
  cases hm
  cases hm'
  exact ⟨hids, hsome, ⟨s, t, hs, ht, hown 1 rfl⟩, ⟨s', t', hs', ht', hown' 1 rfl⟩⟩

/- The join is extracted under one tree and then, with the memo of that, under the other. The second
extraction gives it the number that stands for the levels of the first. -/
theorem join_numbered_with_other_levels :
    let trees : JoinTrees := ⟨[(0, [⟨.inner, [.binary .eq (.column 0) (.column 2)]⟩]),
      (1, [⟨.inner, [.binary .eq (.column 1) (.column 3)]⟩])]⟩
    let scope : QueryScope :=
      ⟨⟨[⟨⟨1, 1⟩, "t1", ["x", "y"]⟩, ⟨⟨1, 2⟩, "t2", ["x", "y"]⟩]⟩, none, trees, Scalar.render⟩
    let join : Plan := .node 3 .leftDeepJoin [.node 1 (.scan ⟨1, 1⟩) [], .node 2 (.scan ⟨1, 2⟩) []]
    let e := extract (scope.under (some 0)) join .empty (.empty 1000000000 16)
    let f := extract (scope.under (some 1)) join e.memo e.numbering
    (f.outcome.toOption.map fun code => (code.numbers, code.isCacheable)) = some ([0, 1, 2], true) ∧
      (f.numbering.shapeOf? 0).map Shape.params = some "L0:INNER[($0 = $2)]" ∧
      scope.treeText? 1 = some "L0:INNER[($1 = $3)]" := by
  decide +kernel

end QueryScope

end PlanReuse
