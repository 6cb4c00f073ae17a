import Mathlib.Data.List.Forall2
import PlanReuse.Proofs.Numbering.Consistency
import PlanReuse.Proofs.Numbering.Identity
import PlanReuse.Proofs.Numbering.Later

/-!
# The numbers of sub-plans

The code of a plan has one number for each node, in the order of the nodes, and so the numbers of the
nodes below a node stand side by side in it. As long as no drop begins another generation they are the
numbers of the sub-plan itself, whatever else happens to the numbering, and asking for them again
changes nothing.
-/

namespace PlanReuse

/-! ### Nodes below a node -/

namespace Plan

mutual

/-- In the order of the nodes those below a node follow it at once. -/
theorem nodes_prefix_drop : ∀ (p : Plan) {k : Nat} {n : Plan}, p.nodes[k]? = some n →
    n.nodes <+: p.nodes.drop k
  | .node id o inputs, k, n, h => by
    cases k with
    | zero =>
      cases h
      exact List.prefix_refl _
    | succ k => exact nodesAll_prefix_drop inputs h

theorem nodesAll_prefix_drop : ∀ (ps : List Plan) {k : Nat} {n : Plan}, (nodesAll ps)[k]? = some n →
    n.nodes <+: (nodesAll ps).drop k
  | [], k, n, h => by cases h
  | p :: ps, k, n, h => by
    rw [nodesAll] at h ⊢
    rcases Nat.lt_or_ge k p.nodes.length with hk | hk
    · rw [List.getElem?_append_left hk] at h
      rw [List.drop_append_of_le_length (Nat.le_of_lt hk)]
      exact (nodes_prefix_drop p h).trans (List.prefix_append _ _)
    · rw [List.getElem?_append_right hk] at h
      rw [List.drop_append, List.drop_eq_nil_of_le hk]
      exact nodesAll_prefix_drop ps h

end

/-- The nodes of a plan that stand at one of its nodes and below, in one piece. -/
theorem take_drop_nodes {p n : Plan} {k : Nat} (h : p.nodes[k]? = some n) :
    (p.nodes.drop k).take n.size = n.nodes := by
  rw [← length_nodes]
  exact (List.prefix_iff_eq_take.mp (p.nodes_prefix_drop h)).symm

end Plan

/-! ### Shapes in the order of the nodes -/

namespace QueryScope

variable {scope : QueryScope}

mutual

/-- The parts of the shape of a plan are the shapes of its nodes, in their order. -/
theorem forall₂_nodes_parts : ∀ {p : Plan} {s : Shape}, scope.shapeOf p = .ok (some s) →
    List.Forall₂ (fun n t => scope.shapeOf n = .ok (some t)) p.nodes s.parts
  | .node id o inputs, s, h => by
    obtain ⟨shapes, text, hshapes, _, hs⟩ := shapeOf_node h
    subst hs
    rw [Plan.nodes, Shape.parts]
    exact .cons h (forall₂_nodesAll_partsAll hshapes)

theorem forall₂_nodesAll_partsAll : ∀ {ps : List Plan} {ss : List Shape},
    scope.shapesOf ps = .ok (some ss) →
      List.Forall₂ (fun n t => scope.shapeOf n = .ok (some t)) (Plan.nodesAll ps) (Shape.partsAll ss)
  | [], ss, h => by
    cases h
    exact .nil
  | p :: ps, ss, h => by
    obtain ⟨s, rest, hs, hrest, rfl⟩ := shapesOf_cons h
    exact List.rel_append (forall₂_nodes_parts hs) (forall₂_nodesAll_partsAll hrest)

end

theorem rightUnique_shapeOf : Relator.RightUnique fun n s => scope.shapeOf n = .ok (some s) := by
  intro n s t hs ht
  rw [hs] at ht
  cases ht
  rfl

/-- Every node of a plan with a shape has one too, whose parts stand in one piece among those of the
plan. -/
theorem exists_shape_of_node {p n : Plan} {s : Shape} {k : Nat}
    (hs : scope.shapeOf p = .ok (some s)) (hn : p.nodes[k]? = some n) :
    ∃ t, scope.shapeOf n = .ok (some t) ∧ s.parts[k]? = some t ∧
      t.parts = (s.parts.drop k).take n.size := by
  have hall := forall₂_nodes_parts hs
  obtain ⟨hk, hget⟩ := List.getElem?_eq_some_iff.mp hn
  have hk' : k < s.parts.length := hall.length_eq ▸ hk
  have ht : scope.shapeOf n = .ok (some s.parts[k]) := hget ▸ hall.get hk hk'
  refine ⟨s.parts[k], ht, List.getElem?_eq_getElem hk', ?_⟩
  have hpiece := List.forall₂_take n.size (List.forall₂_drop k hall)
  rw [Plan.take_drop_nodes hn] at hpiece
  exact List.right_unique_forall₂' rightUnique_shapeOf (forall₂_nodes_parts ht) hpiece

end QueryScope

/-! ### Numbers that are known -/

namespace Numbering

theorem assignAll_of_known {c : Numbering} {ss : List Shape} {ns : List Nat}
    (h : ss.map c.numberOf? = ns.map some) : c.assignAll ss = (some ns, c) := by
  induction ss generalizing ns with
  | nil =>
    cases ns with
    | nil => rfl
    | cons n ns => cases h
  | cons s ss ih =>
    cases ns with
    | nil => cases h
    | cons n ns =>
      obtain ⟨hs, hss⟩ := List.cons.inj h
      have hassign : c.assign s = (some n, c) := by rw [assign, hs]
      rw [assignAll_cons_some hassign, ih hss]
      rfl

/-- Where every shape has a number the table answers without a change, even over its limit. -/
theorem resolve_of_known {c : Numbering} {ss : List Shape} {ns : List Nat}
    (h : ss.map c.numberOf? = ns.map some) : c.resolve ss = (some ⟨ns, c.generation⟩, c) := by
  rw [resolve, assignAll_of_known h]

/-- The number at the place of a shape stands for the shape. -/
theorem Sound.exists_number_of_part {d : Numbering} (hd : d.Sound) {ss : List Shape} {ns : List Nat}
    (h : ss.map d.numberOf? = ns.map some) {k : Nat} {s : Shape} (hs : ss[k]? = some s) :
    ∃ m, ns[k]? = some m ∧ d.shapeOf? m = some s := by
  have hanswer := congrArg (fun l => l[k]?) h
  simp only [List.getElem?_map, hs, Option.map_some] at hanswer
  obtain ⟨m, hm, hnumber⟩ := Option.map_eq_some_iff.mp hanswer.symm
  exact ⟨m, hm, hd.shapeOf?_eq_some_iff.mpr (hd.numberOf?_eq_some_iff.mp hnumber.symm)⟩

/-! ### Extractions among other changes -/

/-- What can happen to a numbering: a change, or the extraction of a plan of any query. -/
inductive Event
  | change (action : Action)
  | extraction (scope : QueryScope) (root : Plan) (memo : Memo)

def after (c : Numbering) : Event → Numbering
  | .change action => c.act action
  | .extraction scope root memo => (extract scope root memo c).numbering

def afterAll (c : Numbering) (events : List Event) : Numbering := events.foldl after c

/-- An extraction changes nothing, or it resolves the parts of a shape. -/
theorem exists_run_eq_after (c : Numbering) (event : Event) :
    ∃ actions, c.after event = c.run actions := by
  cases event with
  | change action => exact ⟨[action], rfl⟩
  | extraction scope root memo =>
    have hnumbering : c.after (.extraction scope root memo) = (c.codeOf (scope.visit memo root).1).2 :=
      congrArg Prod.snd (QueryScope.effect_extract scope root memo c)
    rw [hnumbering]
    rcases (scope.visit memo root).1 with fault | _ | shape
    · exact ⟨[], rfl⟩
    · exact ⟨[], rfl⟩
    · refine ⟨[.resolve shape.parts], ?_⟩
      show _ = (c.resolve shape.parts).2
      rw [codeOf]
      rcases c.resolve shape.parts with ⟨_ | ns, d⟩ <;> rfl

theorem Sound.afterAll {c : Numbering} (hc : c.Sound) (events : List Event) :
    (c.afterAll events).Sound := by
  induction events generalizing c with
  | nil => exact hc
  | cons event events ih =>
    obtain ⟨actions, hrun⟩ := c.exists_run_eq_after event
    exact ih (hrun ▸ hc.run actions)

theorem precedes_afterAll (c : Numbering) (events : List Event) : Precedes c (c.afterAll events) := by
  induction events generalizing c with
  | nil => exact Or.inl (Extends.refl c)
  | cons event events ih =>
    obtain ⟨actions, hrun⟩ := c.exists_run_eq_after event
    have hfirst : Precedes c (c.after event) := hrun ▸ c.precedes_run actions
    exact hfirst.trans (ih (c.after event))

end Numbering

/-! ### The text of a code -/

theorem PlanCode.render_eq_intercalate (ns : List Nat) :
    render ns = ['|'].intercalate (ns.map Decimal.digits ++ [[]]) := by
  induction ns with
  | nil => rfl
  | cons n ns ih =>
    rw [render_cons, ih, List.map_cons, List.cons_append]
    cases ns with
    | nil => simp [List.intercalate]
    | cons m ns => simp [List.intercalate_cons_cons]

/-- Between the bars stand the numbers, and after the last bar nothing. -/
theorem PlanCode.splitOn_render (ns : List Nat) :
    (render ns).splitOn '|' = ns.map Decimal.digits ++ [[]] := by
  rw [render_eq_intercalate, List.splitOn_intercalate]
  · intro piece hpiece hbar
    rcases List.mem_append.mp hpiece with hpiece | hpiece
    · obtain ⟨n, _, rfl⟩ := List.mem_map.mp hpiece
      cases Decimal.isDigit_of_mem_digits hbar
    · rw [List.mem_singleton.mp hpiece] at hbar
      cases hbar
  · exact List.append_ne_nil_of_right_ne_nil _ (List.cons_ne_nil _ _)

/-- The text of a code, cut at the bars, reads back as its numbers. -/
theorem PlanCode.exists_pieces_of_text (ns : Numbers) :
    ∃ pieces, (ofNumbers ns).text.toList.splitOn '|' = pieces ++ [[]] ∧
      pieces.map (fun digits => Nat.ofDigitChars 10 digits 0) = ns.numbers := by
  refine ⟨ns.numbers.map Decimal.digits, ?_, ?_⟩
  · rw [ofNumbers, String.toList_ofList, splitOn_render]
  · rw [List.map_map]
    exact List.map_id'' (fun n => Nat.ofDigitChars_ten_toDigits) _

/-! ### Codes of sub-plans -/

namespace QueryScope

variable {scope : QueryScope} {p : Plan} {before : List Plan}

/-- A plan that gets a code has the numbers that the table then holds for the parts of its shape. -/
theorem exists_heldBy_of_extract (hids : Plan.Identified (Plan.nodesAll (p :: before))) {c : Numbering}
    {code : PlanCode} (hcode : (extract scope p (scope.memoAfter .empty before) c).outcome = .ok code)
    (hsupported : code.unsupported = false)
    (hfit : (extract scope p (scope.memoAfter .empty before) c).numbering.overflows = c.overflows) :
    ∃ s ns, scope.shapeOf p = .ok (some s) ∧ code = .ofNumbers ns ∧ code.isCacheable = true ∧
      Numbering.Resolution.HeldBy ⟨c, s.parts, ns⟩
        (extract scope p (scope.memoAfter .empty before) c).numbering := by
  obtain ⟨s, hs⟩ := exists_shape_of_supported hcode hsupported
  have heffect := effect_extract scope p (scope.memoAfter .empty before) c
  have hoverflows := (c.counts_resolve s.parts).2
  rw [hs, Numbering.codeOf] at heffect
  rw [visit_memoAfter hids] at hs
  rcases hresolve : c.resolve s.parts with ⟨_ | ns, d⟩ <;>
    simp only [hresolve] at heffect hoverflows <;>
    obtain ⟨houtcome, hnumbering⟩ := Prod.mk.inj heffect
  · rw [hnumbering, hoverflows] at hfit
    exact absurd hfit (Nat.succ_ne_self _)
  · cases hcode.symm.trans houtcome
    obtain ⟨_, hgeneration, hanswers⟩ := Numbering.resolve_some hresolve
    rw [hnumbering]
    exact ⟨s, ns, hs, rfl, Numbering.isCacheable_of_resolve hresolve, hgeneration, hanswers⟩

/-- Where a table holds the numbers of a plan, the number at the place of a node stands for its shape. -/
theorem exists_number_of_node {n : Plan} {s : Shape} {k : Nat}
    (hs : scope.shapeOf p = .ok (some s)) (hn : p.nodes[k]? = some n) {d : Numbering} (hd : d.Sound)
    {ns : List Nat} (h : s.parts.map d.numberOf? = ns.map some) :
    ∃ m t, ns[k]? = some m ∧ scope.shapeOf n = .ok (some t) ∧ d.shapeOf? m = some t := by
  obtain ⟨t, ht, hpart, _⟩ := exists_shape_of_node hs hn
  obtain ⟨m, hm, hstands⟩ := hd.exists_number_of_part h hpart
  exact ⟨m, t, hm, ht, hstands⟩

/-- A table that holds the numbers of all parts of a shape gives them, and stays as it is. -/
theorem effect_extract_of_known (hids : Plan.Identified (Plan.nodesAll (p :: before))) {s : Shape}
    (hs : scope.shapeOf p = .ok (some s)) {d : Numbering} {ns : List Nat}
    (h : s.parts.map d.numberOf? = ns.map some) :
    (extract scope p (scope.memoAfter .empty before) d).effect =
      (.ok (.ofNumbers ⟨ns, d.generation⟩), d) := by
  rw [effect_extract, visit_memoAfter hids, hs, Numbering.codeOf, Numbering.resolve_of_known h]

/-- A supported plan that finds room, whatever has happened to the numbering before, gets one number for
each of its nodes, in their order: that of the shape of the node. The numbers stand between the bars of
the text. As long as the generation lasts, whatever happens meanwhile, a node extracted by itself gets
the piece of the numbers that begins at its place and has its size, and nothing changes. -/
theorem extract_segments (limit shapeBytes : Nat) (earlier : List Numbering.Event)
    (scope : QueryScope) (p : Plan) (before : List Plan)
    (hids : Plan.Identified (Plan.nodesAll (p :: before))) :
    let c := (Numbering.empty limit shapeBytes).afterAll earlier
    let e := extract scope p (scope.memoAfter .empty before) c
    ∀ code, e.outcome = .ok code → code.unsupported = false → e.numbering.overflows = c.overflows →
      code.isCacheable = true ∧ code.numbers.length = p.size ∧
        (∀ (k : Nat) (n : Plan), p.nodes[k]? = some n → ∃ m s, code.numbers[k]? = some m ∧
          (scope.visit .empty n).1 = .ok (some s) ∧ e.numbering.shapeOf? m = some s) ∧
        (∃ pieces, code.text.toList.splitOn '|' = pieces ++ [[]] ∧
          pieces.map (fun digits => Nat.ofDigitChars 10 digits 0) = code.numbers) ∧
        ∀ (later : List Numbering.Event) (before' : List Plan),
          let d := e.numbering.afterAll later
          d.generation = code.generation → ∀ (k : Nat) (n : Plan), p.nodes[k]? = some n →
            Plan.Identified (Plan.nodesAll (n :: before')) →
              (extract scope n (scope.memoAfter .empty before') d).effect =
                (.ok (.ofNumbers ⟨(code.numbers.drop k).take n.size, code.generation⟩), d) := by
  intro c e code hcode hsupported hfit
  obtain ⟨s, ns, hs, rfl, hcacheable, hheld⟩ := exists_heldBy_of_extract hids hcode hsupported hfit
  have hsound : e.numbering.Sound :=
    ((Numbering.sound_empty limit shapeBytes).afterAll earlier).afterAll
      [.extraction scope p (scope.memoAfter .empty before)]
  have hlength : ns.numbers.length = p.size := by
    have hanswers := congrArg List.length hheld.answers
    rw [List.length_map, List.length_map] at hanswers
    rw [← hanswers, ← Plan.length_nodes, (forall₂_nodes_parts hs).length_eq]
  refine ⟨hcacheable, hlength, ?_, PlanCode.exists_pieces_of_text ns, ?_⟩
  · intro k n hn
    obtain ⟨m, t, hm, ht, hshape⟩ := exists_number_of_node hs hn hsound hheld.answers
    have hbelow : ∀ a ∈ n.nodes, a ∈ Plan.nodesAll (p :: before) := fun a ha =>
      List.mem_append_left _ (List.mem_of_mem_drop ((p.nodes_prefix_drop hn).subset ha))
    refine ⟨m, t, hm, ?_, hshape⟩
    rw [(visit_of_faithful hids n hbelow (Memo.faithful_empty scope _)).1, ht]
  · intro later before' d hgeneration k n hn hids'
    obtain ⟨t, ht, _, hparts⟩ := exists_shape_of_node hs hn
    have hsame : d.generation = e.numbering.generation := hgeneration.trans hheld.generation
    have hlater := hheld.extends ((e.numbering.precedes_afterAll later).extends hsame)
    rw [← hgeneration]
    refine effect_extract_of_known hids' ht ?_
    rw [hparts, List.map_take, List.map_drop, hlater.answers, ← List.map_drop, ← List.map_take]
    rfl

/- The plan reads one sub-plan twice, and a plan of another query is extracted before it and another one
after. Then the limit is set below the size of the table, and the sub-plan is extracted by itself. -/
theorem extract_segments_below_lowered_limit :
    let scope : QueryScope := ⟨⟨[⟨⟨1, 1⟩, "orders", []⟩]⟩, none, .empty, Scalar.render⟩
    let other : QueryScope := ⟨⟨[⟨⟨2, 7⟩, "items", []⟩]⟩, some 3, ⟨[(3, [])]⟩, Scalar.render⟩
    let items : Plan := .node 8 (.scan ⟨2, 7⟩) []
    let filtered : Plan := .node 2 (.filter (.column 0)) [.node 1 (.scan ⟨1, 1⟩) []]
    let sorted : Plan := .node 3 (.sort [] none 0) [filtered]
    let p : Plan := .node 4 (.union true) [filtered, sorted]
    let c := (Numbering.empty 160 16).afterAll [.extraction other items .empty]
    let e := extract scope p (scope.memoAfter .empty []) c
    let d := e.numbering.afterAll
      [.extraction other (.node 9 .leftDeepJoin [items]) .empty, .change (.setLimit 16)]
    let f := extract scope sorted (scope.memoAfter .empty [filtered]) d
    Plan.Identified (Plan.nodesAll [p]) ∧
      ((e.outcome.toOption, e.numbering.overflows) =
          (some (.ofNumbers ⟨[1, 2, 3, 4, 2, 3], 0⟩), c.overflows) ∧
        (d.generation, d.size, d.limit) = (0, 6, 16)) ∧
      f.effect = (.ok (.ofNumbers ⟨[4, 2, 3], 0⟩), d) := by
  intro scope other items filtered sorted p c e d f
  have hids : Plan.Identified (Plan.nodesAll [p]) := by
    refine Plan.identified_of_nodup [p, sorted, filtered, .node 1 (.scan ⟨1, 1⟩) []] (by decide) ?_
    intro n hn
    simp only [p, sorted, filtered, Plan.nodesAll, Plan.nodes, List.nil_append, List.append_nil,
      List.cons_append, List.mem_cons, List.not_mem_nil] at hn ⊢
    tauto
  have hids' : Plan.Identified (Plan.nodesAll [sorted, filtered]) := by
    refine Plan.identified_of_nodup [sorted, filtered, .node 1 (.scan ⟨1, 1⟩) []] (by decide) ?_
    intro n hn
    simp only [sorted, filtered, Plan.nodesAll, Plan.nodes, List.nil_append, List.append_nil,
      List.cons_append, List.mem_cons, List.not_mem_nil] at hn ⊢
    tauto
  have hvalues : (e.outcome.toOption, e.numbering.overflows) =
        (some (.ofNumbers ⟨[1, 2, 3, 4, 2, 3], 0⟩), c.overflows) ∧
      (d.generation, d.size, d.limit) = (0, 6, 16) := by
    clear hids hids'
    decide +kernel +revert
  obtain ⟨hsome, hfit⟩ := Prod.mk.inj hvalues.1
  -- In other words the counts agree with those below only when both extractions are evaluated.
  simp only [e, c] at hfit
  have hcode : e.outcome = .ok (.ofNumbers ⟨[1, 2, 3, 4, 2, 3], 0⟩) := by
    rcases h : e.outcome with fault | code <;> rw [h] at hsome <;> cases hsome
    rfl
  obtain ⟨_, _, _, _, hsegments⟩ := extract_segments 160 16 [.extraction other items .empty] scope p []
    hids _ hcode rfl hfit
  have hsegment := hsegments
    [.extraction other (.node 9 .leftDeepJoin [items]) .empty, .change (.setLimit 16)] [filtered]
    (Prod.mk.inj hvalues.2).1 3 sorted rfl hids'
  exact ⟨hids, hvalues, hsegment⟩

end QueryScope

end PlanReuse
