import PlanReuse.Proofs.Numbering.Memory

/-!
# Sharing a memo

The extractions of a query may share one memo or begin with an empty one each. Every one of them comes to
the same either way, and so does the numbering after it: what a memo holds of a node is what a visit
would find, and an extraction that breaks off half way leaves nothing else behind.
-/

namespace PlanReuse

/-- What an extraction comes to, its memo aside: a code or a fault, and the numbering after it. -/
def Extraction.effect (e : Extraction) : Except JoinFault PlanCode × Numbering :=
  (e.outcome, e.numbering)

/-- The code for the shape of a plan, and the numbering after it. -/
def Numbering.codeOf (c : Numbering) :
    Except JoinFault (Option Shape) → Except JoinFault PlanCode × Numbering
  | .error fault => (.error fault, c)
  | .ok none => (.ok .refused, c)
  | .ok (some shape) =>
    match c.resolve shape.parts with
    | (some ns, d) => (.ok (.ofNumbers ns), d)
    | (none, d) => (.ok .none, d)

namespace QueryScope

/-- Plans extracted one after the other, all with one memo. -/
def extractSharing (scope : QueryScope) : Memo → Numbering → List Plan → List Extraction
  | _, _, [] => []
  | memo, c, p :: ps =>
    let e := extract scope p memo c
    e :: extractSharing scope e.memo e.numbering ps

/-- Plans extracted one after the other, each with an empty memo. -/
def extractApart (scope : QueryScope) : Numbering → List Plan → List Extraction
  | _, [] => []
  | c, p :: ps =>
    let e := extract scope p .empty c
    e :: extractApart scope e.numbering ps

/-! ### One extraction -/

theorem effect_extract (scope : QueryScope) (p : Plan) (memo : Memo) (c : Numbering) :
    (extract scope p memo c).effect = c.codeOf (scope.visit memo p).1 := by
  rcases hvisit : scope.visit memo p with ⟨fault | _ | shape, after⟩
  · simp only [extract, hvisit]
    rfl
  · simp only [extract, hvisit]
    rfl
  · simp only [extract, hvisit, Numbering.codeOf]
    rcases c.resolve shape.parts with ⟨_ | ns, d⟩ <;> rfl

theorem memo_extract (scope : QueryScope) (p : Plan) (memo : Memo) (c : Numbering) :
    (extract scope p memo c).memo = (scope.visit memo p).2 := by
  rcases hvisit : scope.visit memo p with ⟨fault | _ | shape, after⟩
  · simp only [extract, hvisit]
  · simp only [extract, hvisit]
  · simp only [extract, hvisit]
    rcases c.resolve shape.parts with ⟨_ | ns, d⟩ <;> rfl

variable {scope : QueryScope} {ns : List Plan}

/-- With a faithful memo an extraction comes to what the shape alone says. -/
theorem effect_extract_of_faithful (hids : Plan.Identified ns) {p : Plan} {memo : Memo}
    (hnodes : ∀ n ∈ p.nodes, n ∈ ns) (hm : memo.Faithful scope ns) (c : Numbering) :
    (extract scope p memo c).effect = c.codeOf (scope.shapeOf p) := by
  rw [effect_extract, (visit_of_faithful hids p hnodes hm).1]

/-! ### Extractions in a row -/

theorem map_effect_extractSharing (hids : Plan.Identified ns) {ps : List Plan} {memo : Memo}
    {c : Numbering} (hnodes : ∀ n ∈ Plan.nodesAll ps, n ∈ ns) (hm : memo.Faithful scope ns) :
    (scope.extractSharing memo c ps).map Extraction.effect =
      (scope.extractApart c ps).map Extraction.effect := by
  induction ps generalizing memo c with
  | nil => rfl
  | cons p ps ih =>
    have hp : ∀ n ∈ p.nodes, n ∈ ns := fun n hn => hnodes n (List.mem_append_left _ hn)
    have hps : ∀ n ∈ Plan.nodesAll ps, n ∈ ns := fun n hn => hnodes n (List.mem_append_right _ hn)
    have hfirst : (extract scope p memo c).effect = (extract scope p .empty c).effect := by
      rw [effect_extract_of_faithful hids hp hm,
        effect_extract_of_faithful hids hp (Memo.faithful_empty scope ns)]
    have hnumbering : (extract scope p memo c).numbering = (extract scope p .empty c).numbering :=
      congrArg Prod.snd hfirst
    have hafter : (extract scope p memo c).memo.Faithful scope ns := by
      rw [memo_extract]
      exact (visit_of_faithful hids p hp hm).2
    rw [extractSharing, extractApart, List.map_cons, List.map_cons, hfirst, ih hps hafter, hnumbering]

/-- In a query whose nodes have numbers of their own a memo changes nothing: from any numbering on, the
plans come to the same codes and faults, and to the same numbering after each of them, whether they
share one memo or not. -/
theorem extractSharing_eq_extractApart (scope : QueryScope) (c : Numbering) (ps : List Plan)
    (hids : Plan.Identified (Plan.nodesAll ps)) :
    (scope.extractSharing .empty c ps).map Extraction.effect =
      (scope.extractApart c ps).map Extraction.effect :=
  map_effect_extractSharing hids (fun _ hn => hn) (Memo.faithful_empty scope _)

/- The first plan reads one table twice and breaks off at a join without its tree, the second has a part
that is not supported; the third and the fourth meet what the memo has kept of both. The numbering
has room for one shape only, and the fourth plan overflows it. -/
theorem extractSharing_eq_extractApart_after_fault :
    let scope : QueryScope := ⟨⟨[⟨⟨1, 1⟩, "orders", []⟩]⟩, none, .empty, Scalar.render⟩
    let known : Plan := .node 1 (.scan ⟨1, 1⟩) []
    let unknown : Plan := .node 2 (.scan ⟨9, 9⟩) []
    let both : Plan := .node 3 (.union true) [known, unknown]
    let broken : Plan := .node 4 .leftDeepJoin [known, known]
    let sorted : Plan := .node 5 (.sort [] none 0) [known]
    let plans := [.node 6 (.union false) [known, broken], both, .node 7 (.union true) [both, known], sorted,
      known]
    let shared := scope.extractSharing .empty (.empty 16 16) plans
    Plan.Identified (Plan.nodesAll plans) ∧
      shared.map (fun e => (e.outcome.toOption, e.memo.size, e.numbering.generation)) =
        [(none, 1, 0), (some .refused, 3, 0), (some .refused, 4, 0), (some .none, 5, 1),
          (some (.ofNumbers ⟨[0], 1⟩), 5, 1)] ∧
      shared.map Extraction.effect =
        (scope.extractApart (.empty 16 16) plans).map Extraction.effect := by
  intro scope known unknown both broken sorted plans shared
  have hvalues : shared.map (fun e => (e.outcome.toOption, e.memo.size, e.numbering.generation)) =
      [(none, 1, 0), (some .refused, 3, 0), (some .refused, 4, 0), (some .none, 5, 1),
        (some (.ofNumbers ⟨[0], 1⟩), 5, 1)] := by decide +kernel +revert
  have hids : Plan.Identified (Plan.nodesAll plans) := by
    refine Plan.identified_of_nodup [.node 6 (.union false) [known, broken], broken, both,
      .node 7 (.union true) [both, known], sorted, known, unknown] (by decide) ?_
    intro n hn
    simp only [plans, known, unknown, both, broken, sorted, Plan.nodesAll, Plan.nodes,
      List.nil_append, List.append_nil, List.cons_append, List.mem_cons, List.not_mem_nil] at hn ⊢
    tauto
  exact ⟨hids, hvalues, extractSharing_eq_extractApart scope (.empty 16 16) plans hids⟩

end QueryScope

end PlanReuse
