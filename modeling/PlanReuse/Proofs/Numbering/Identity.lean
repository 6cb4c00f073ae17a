import PlanReuse.Proofs.Numbering.Memory
import PlanReuse.Proofs.Numbering.Parameters

/-!
# What a shape says of a plan

Under one catalog two plans have one shape exactly if they agree node by node: in the kinds of their
operators, in what these are told to do and in their inputs. The numbers of the nodes play no part.
-/

namespace PlanReuse

/-! ### Plans that agree -/

mutual

/-- Agreement of plans, given the levels that the left-deep joins of each are subject to. -/
def Plan.Agrees (levels levels' : List JoinLevel) : Plan → Plan → Prop
  | .node _ o ps, .node _ o' ps' =>
    o.Agrees levels levels' o' ∧ Plan.AgreesAll levels levels' ps ps'

def Plan.AgreesAll (levels levels' : List JoinLevel) : List Plan → List Plan → Prop
  | [], [] => True
  | p :: ps, q :: qs => Plan.Agrees levels levels' p q ∧ Plan.AgreesAll levels levels' ps qs
  | _, _ => False

end

namespace QueryScope

/-- The levels of the join tree of the extracted plan. -/
def levels (scope : QueryScope) : List JoinLevel := (scope.tree.bind scope.trees.find?).getD []

/-- The levels that an operator is subject to. -/
def levelsFor (scope : QueryScope) : Operator → List JoinLevel
  | .leftDeepJoin => scope.levels
  | _ => []

/-- The expressions that enter the shape of a node with the operator. -/
def scalarsOf (scope : QueryScope) (o : Operator) : List Scalar :=
  o.scalars ++ (scope.levelsFor o).flatMap JoinLevel.conditions

/-- All functions that the plan and its join levels call have the name of one. -/
def Names (scope : QueryScope) (p : Plan) : Prop :=
  ∀ n ∈ p.nodes, ∀ e ∈ scope.scalarsOf n.operator, e.Named

variable {scope scope' : QueryScope}

theorem joinLevels_eq {node inputs : Nat} {o : Operator} {ls : List JoinLevel}
    (h : scope.joinLevels node o inputs = .ok ls) : ls = scope.levelsFor o := by
  cases o with
  | leftDeepJoin =>
    rw [joinLevels, levelsOf] at h
    rw [levelsFor, levels]
    cases htree : scope.tree with
    | none =>
      rw [htree] at h
      cases h
    | some tree =>
      rw [htree] at h
      cases hfind : scope.trees.find? tree with
      | none =>
        simp only [hfind] at h
        cases h
      | some found =>
        simp only [hfind] at h
        split at h
        · rw [Option.bind_some, hfind, Option.getD_some, Except.ok.inj h]
        · cases h
  | _ => exact (Except.ok.inj h).symm

theorem agrees_levelsFor {o o' : Operator} :
    o.Agrees (scope.levelsFor o) (scope'.levelsFor o') o' ↔ o.Agrees scope.levels scope'.levels o' := by
  cases o <;> cases o' <;> exact Iff.rfl

/-! ### Shapes of nodes -/

/-- All that a supported node and its shape have to do with each other. -/
theorem shapeOf_node {id : Nat} {o : Operator} {inputs : List Plan} {s : Shape}
    (h : scope.shapeOf (.node id o inputs) = .ok (some s)) :
    ∃ shapes text, scope.shapesOf inputs = .ok (some shapes) ∧
      scope.params (scope.levelsFor o) o = .ok text ∧ s = .node o.kind (String.ofList text) shapes := by
  rw [shapeOf] at h
  rcases hinputs : scope.shapesOf inputs with fault | _ | shapes <;> simp only [hinputs] at h
  · cases h
  · cases h
  · rcases hjudge : scope.judge id o shapes with fault | v <;> simp only [hjudge] at h
    · cases h
    · rw [judge] at hjudge
      rcases hlevels : scope.joinLevels id o shapes.length with fault | ls <;>
        simp only [hlevels] at hjudge
      · cases hjudge
      · split at hjudge
        · cases hjudge
          cases h
        · rcases hparams : scope.params ls o with why | text <;> simp only [hparams] at hjudge
          · cases hjudge
            cases h
          · cases hjudge
            cases h
            rw [joinLevels_eq hlevels] at hparams
            exact ⟨shapes, text, rfl, hparams, rfl⟩

theorem shapesOf_cons {p : Plan} {ps : List Plan} {ss : List Shape}
    (h : scope.shapesOf (p :: ps) = .ok (some ss)) :
    ∃ s rest, scope.shapeOf p = .ok (some s) ∧ scope.shapesOf ps = .ok (some rest) ∧
      ss = s :: rest := by
  rw [shapesOf] at h
  rcases hp : scope.shapeOf p with fault | _ | s <;> simp only [hp] at h
  · cases h
  · rcases hps : scope.shapesOf ps with fault | rest <;> simp only [hps] at h <;> cases h
  · rcases hps : scope.shapesOf ps with fault | _ | rest <;> simp only [hps] at h <;> cases h
    exact ⟨s, rest, rfl, rfl, rfl⟩

mutual

theorem shapeOf_eq_iff_agrees (hcatalog : scope.catalog = scope'.catalog)
    (h : scope.translate = Scalar.render) (h' : scope'.translate = Scalar.render) :
    ∀ {p p' : Plan} {s s' : Shape}, scope.Names p → scope'.Names p' →
      scope.shapeOf p = .ok (some s) → scope'.shapeOf p' = .ok (some s') →
        (s = s' ↔ p.Agrees scope.levels scope'.levels p')
  | .node id o inputs, .node id' o' inputs', s, s', hn, hn', hs, hs' => by
    obtain ⟨shapes, text, hshapes, htext, rfl⟩ := shapeOf_node hs
    obtain ⟨shapes', text', hshapes', htext', rfl⟩ := shapeOf_node hs'
    have hinputs : shapes = shapes' ↔ Plan.AgreesAll scope.levels scope'.levels inputs inputs' :=
      shapesOf_eq_iff_agreesAll hcatalog h h' (fun n hmem => hn n (List.mem_cons_of_mem _ hmem))
        (fun n hmem => hn' n (List.mem_cons_of_mem _ hmem)) hshapes hshapes'
    rw [Plan.Agrees, ← hinputs, ← agrees_levelsFor]
    constructor
    · intro heq
      obtain ⟨hkind, hparams, hsame⟩ := Shape.node.inj heq
      refine ⟨?_, hsame⟩
      rw [← String.ofList_injective hparams] at htext'
      exact agrees_of_params_eq h h' (hn _ (List.mem_cons_self ..)) (hn' _ (List.mem_cons_self ..))
        hkind htext htext'
    · rintro ⟨hagrees, rfl⟩
      obtain ⟨hkind, hparams⟩ := params_eq_of_agrees hcatalog h h' hagrees
      rw [htext, htext'] at hparams
      rw [hkind, Except.ok.inj hparams]

theorem shapesOf_eq_iff_agreesAll (hcatalog : scope.catalog = scope'.catalog)
    (h : scope.translate = Scalar.render) (h' : scope'.translate = Scalar.render) :
    ∀ {ps ps' : List Plan} {ss ss' : List Shape},
      (∀ n ∈ Plan.nodesAll ps, ∀ e ∈ scope.scalarsOf n.operator, e.Named) →
      (∀ n ∈ Plan.nodesAll ps', ∀ e ∈ scope'.scalarsOf n.operator, e.Named) →
      scope.shapesOf ps = .ok (some ss) → scope'.shapesOf ps' = .ok (some ss') →
        (ss = ss' ↔ Plan.AgreesAll scope.levels scope'.levels ps ps')
  | [], [], ss, ss', _, _, hss, hss' => by
    cases hss
    cases hss'
    exact ⟨fun _ => trivial, fun _ => rfl⟩
  | [], p' :: ps', ss, ss', _, _, hss, hss' => by
    obtain ⟨s', rest', _, _, rfl⟩ := shapesOf_cons hss'
    cases hss
    constructor
    · intro heq
      cases heq
    · intro hagree
      cases hagree
  | p :: ps, [], ss, ss', _, _, hss, hss' => by
    obtain ⟨s, rest, _, _, rfl⟩ := shapesOf_cons hss
    cases hss'
    constructor
    · intro heq
      cases heq
    · intro hagree
      cases hagree
  | p :: ps, p' :: ps', ss, ss', hn, hn', hss, hss' => by
    obtain ⟨s, rest, hs, hrest, rfl⟩ := shapesOf_cons hss
    obtain ⟨s', rest', hs', hrest', rfl⟩ := shapesOf_cons hss'
    have hfirst : s = s' ↔ p.Agrees scope.levels scope'.levels p' :=
      shapeOf_eq_iff_agrees hcatalog h h' (fun n hmem => hn n (List.mem_append_left _ hmem))
        (fun n hmem => hn' n (List.mem_append_left _ hmem)) hs hs'
    have hothers : rest = rest' ↔ Plan.AgreesAll scope.levels scope'.levels ps ps' :=
      shapesOf_eq_iff_agreesAll hcatalog h h' (fun n hmem => hn n (List.mem_append_right _ hmem))
        (fun n hmem => hn' n (List.mem_append_right _ hmem)) hrest hrest'
    rw [Plan.AgreesAll, ← hfirst, ← hothers, List.cons.injEq]

end

/-! ### Plans of a query -/

/-- A plan that is supported has a shape. -/
theorem exists_shape_of_supported {memo : Memo} {p : Plan} {c : Numbering} {code : PlanCode}
    (h : (extract scope p memo c).outcome = .ok code) (hcode : code.unsupported = false) :
    ∃ s, (scope.visit memo p).1 = .ok (some s) := by
  rcases hvisit : scope.visit memo p with ⟨fault | _ | s, after⟩ <;>
    simp only [extract, hvisit] at h
  · cases h
  · cases h
    cases hcode
  · exact ⟨s, rfl⟩

variable (scope scope') in
/-- Two plans of any two queries under one catalog, each extracted after any other plans of its query:
if both are supported, their shapes are equal exactly if the plans agree. -/
theorem root_shapes_eq_iff_agree (hcatalog : scope.catalog = scope'.catalog)
    (h : scope.translate = Scalar.render) (h' : scope'.translate = Scalar.render)
    {before before' : List Plan} {p p' : Plan}
    (hids : Plan.Identified (Plan.nodesAll (p :: before)))
    (hids' : Plan.Identified (Plan.nodesAll (p' :: before')))
    (hnames : scope.Names p) (hnames' : scope'.Names p') {c c' : Numbering} {code code' : PlanCode}
    (hcode : (extract scope p (scope.memoAfter .empty before) c).outcome = .ok code)
    (hcode' : (extract scope' p' (scope'.memoAfter .empty before') c').outcome = .ok code')
    (hsupported : code.unsupported = false) (hsupported' : code'.unsupported = false) :
    ∃ s s', (scope.visit (scope.memoAfter .empty before) p).1 = .ok (some s) ∧
      (scope'.visit (scope'.memoAfter .empty before') p').1 = .ok (some s') ∧
      (s = s' ↔ p.Agrees scope.levels scope'.levels p') := by
  obtain ⟨s, hs⟩ := exists_shape_of_supported hcode hsupported
  obtain ⟨s', hs'⟩ := exists_shape_of_supported hcode' hsupported'
  refine ⟨s, s', hs, hs', ?_⟩
  rw [visit_memoAfter hids] at hs
  rw [visit_memoAfter hids'] at hs'
  exact shapeOf_eq_iff_agrees hcatalog h h' hnames hnames' hs hs'

/- Two left-deep joins in different queries: the case of a function, the bits of a NaN, the numbers of
the nodes and of the join trees differ, and one of the joins reads one node twice. -/
theorem root_shapes_eq_iff_agree_in_either_case :
    let level (f : String) (nan : Binary64) : JoinLevel :=
      ⟨.inner, [.inList (.call f [.column 0]) [.null, .double nan] false]⟩
    let catalog : Catalog := ⟨[⟨⟨1, 1⟩, "orders", []⟩]⟩
    let scope : QueryScope :=
      ⟨catalog, some 0, ⟨[(0, [level "lower" ⟨0x7FF8000000000000⟩])]⟩, Scalar.render⟩
    let scope' : QueryScope :=
      ⟨catalog, some 5, ⟨[(5, [level "Lower" ⟨0xFFF8000000000000⟩])]⟩, Scalar.render⟩
    let scan (id : Nat) : Plan := .node id (.scan ⟨1, 1⟩) []
    let p : Plan := .node 3 .leftDeepJoin [scan 1, scan 2]
    let p' : Plan := .node 9 .leftDeepJoin [scan 8, scan 8]
    ∃ s s', (scope.visit (scope.memoAfter .empty [scan 2]) p).1 = .ok (some s) ∧
      (scope'.visit (scope'.memoAfter .empty []) p').1 = .ok (some s') ∧ s = s' := by
  intro level catalog scope scope' scan p p'
  have hok {α : Type} {x : Except JoinFault α} {a : α} (h : x.toOption = some a) : x = .ok a := by
    cases x with
    | error fault => cases h
    | ok b => rw [Option.some.inj h]
  have hcode : (extract scope p (scope.memoAfter .empty [scan 2]) (.empty 1000 16)).outcome.toOption =
      some (.ofNumbers ⟨[0, 1, 1], 0⟩) := by decide +kernel +revert
  have hcode' : (extract scope' p' (scope'.memoAfter .empty []) (.empty 1000 16)).outcome.toOption =
      some (.ofNumbers ⟨[0, 1, 1], 0⟩) := by decide +kernel +revert
  have hids : Plan.Identified (Plan.nodesAll [p, scan 2]) := by
    refine Plan.identified_of_nodup [p, scan 1, scan 2] (by decide) ?_
    intro n hn
    simpa [p, scan, Plan.nodesAll, Plan.nodes] using hn
  have hids' : Plan.Identified (Plan.nodesAll [p']) := by
    refine Plan.identified_of_nodup [p', scan 8] (by decide) ?_
    intro n hn
    simpa [p', scan, Plan.nodesAll, Plan.nodes] using hn
  have hcall (f : String) (hf : IsFunctionName f) (nan : Binary64) :
      Scalar.Named (.inList (.call f [.column 0]) [.null, .double nan] false) := by
    intro g as hg
    simp only [Scalar.parts, Scalar.partsAll, List.append_nil, List.mem_cons, List.not_mem_nil,
      or_false, reduceCtorEq, false_or, Scalar.call.injEq] at hg
    rw [hg.1]
    exact hf
  have hname : IsFunctionName "lower" :=
    ⟨⟨List.all_eq_true.mp (by decide), 'l', by decide, by decide⟩, by decide +kernel⟩
  have hname' : IsFunctionName "Lower" :=
    ⟨⟨List.all_eq_true.mp (by decide), 'L', by decide, by decide⟩, by decide +kernel⟩
  have hnames : scope.Names p := by
    intro n hn e he
    have hcases : n = p ∨ n = scan 1 ∨ n = scan 2 := by
      simpa [p, scan, Plan.nodesAll, Plan.nodes] using hn
    rcases hcases with rfl | rfl | rfl
    · cases List.mem_singleton.mp he
      exact hcall "lower" hname _
    · cases he
    · cases he
  have hnames' : scope'.Names p' := by
    intro n hn e he
    have hcases : n = p' ∨ n = scan 8 := by
      simpa [p', scan, Plan.nodesAll, Plan.nodes] using hn
    rcases hcases with rfl | rfl
    · cases List.mem_singleton.mp he
      exact hcall "Lower" hname' _
    · cases he
  obtain ⟨s, s', hs, hs', hsame⟩ := root_shapes_eq_iff_agree scope scope' rfl rfl rfl hids hids'
    hnames hnames' (hok hcode) (hok hcode') rfl rfl
  have hnan : Decimal.text Constant.layout ⟨0x7FF8000000000000⟩ =
      Decimal.text Constant.layout ⟨0xFFF8000000000000⟩ := by decide +kernel
  have hupper : Text.upper "lower".toList = Text.upper "Lower".toList := by decide +kernel
  have hlevel : JoinLevel.Alike (level "lower" ⟨0x7FF8000000000000⟩)
      (level "Lower" ⟨0xFFF8000000000000⟩) :=
    ⟨rfl, .cons ⟨⟨hupper, rfl, trivial⟩, .cons rfl (.cons hnan .nil), rfl⟩ .nil⟩
  refine ⟨s, s', hs, hs', hsame.mpr ⟨.cons hlevel .nil, ?_⟩⟩
  exact ⟨⟨rfl, trivial⟩, ⟨rfl, trivial⟩, trivial⟩

end QueryScope

end PlanReuse
