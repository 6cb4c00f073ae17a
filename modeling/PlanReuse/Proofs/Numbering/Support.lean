import Mathlib.Data.List.Dedup
import PlanReuse.Proofs.Numbering.Identity
import PlanReuse.Proofs.Numbering.Sharing

/-!
# What an extraction comes to

Whether an extraction breaks off, and whether its plan is refused, can be read off the nodes of the plan.
A left-deep join without its levels breaks it off only if all its inputs are supported, since otherwise
nobody asks for the levels. The inputs of a node are all visited, whatever the visit of the others has
found. An extraction that breaks off or is refused leaves the numbering as it was.
-/

namespace PlanReuse

/-! ### Long membership lists -/

/-- At some depth of the expression stands a membership list with more values than the limit. -/
inductive Scalar.HasLongList (limit : Nat) : Scalar → Prop
  | here {a : Scalar} {vs : List Constant} {negated : Bool} (h : limit < vs.length) :
      HasLongList limit (.inList a vs negated)
  | member {a : Scalar} {vs : List Constant} {negated : Bool} (h : HasLongList limit a) :
      HasLongList limit (.inList a vs negated)
  | left {o : BinaryOp} {l r : Scalar} (h : HasLongList limit l) : HasLongList limit (.binary o l r)
  | right {o : BinaryOp} {l r : Scalar} (h : HasLongList limit r) : HasLongList limit (.binary o l r)
  | unary {o : UnaryOp} {a : Scalar} (h : HasLongList limit a) : HasLongList limit (.unary o a)
  | call {f : String} {as : List Scalar} {a : Scalar} (ha : a ∈ as) (h : HasLongList limit a) :
      HasLongList limit (.call f as)
  | aggregate {o : AggregateOp} {distinct : Bool} {a : Scalar} (h : HasLongList limit a) :
      HasLongList limit (.aggregate o distinct a)

namespace Scalar

variable {limit : Nat}

theorem exists_long_cons_iff {e : Scalar} {es : List Scalar} :
    (∃ x ∈ e :: es, limit < x.listLength) ↔
      limit < e.listLength ∨ ∃ x ∈ es, limit < x.listLength := by
  simp only [List.mem_cons, exists_eq_or_imp]

theorem exists_long_append_iff {es fs : List Scalar} :
    (∃ x ∈ es ++ fs, limit < x.listLength) ↔
      (∃ x ∈ es, limit < x.listLength) ∨ ∃ x ∈ fs, limit < x.listLength := by
  simp only [List.mem_append, or_and_right, exists_or]

/-- Where no list stands at the head of an expression, one stands among its parts or nowhere. -/
theorem exists_long_cons_iff_of_eq_zero {e : Scalar} (he : e.listLength = 0) {es : List Scalar} :
    (∃ x ∈ e :: es, limit < x.listLength) ↔ ∃ x ∈ es, limit < x.listLength := by
  rw [exists_long_cons_iff, he]
  exact or_iff_right (Nat.not_lt_zero limit)

theorem not_exists_long_of_eq_zero {e : Scalar} (he : e.listLength = 0) :
    ¬ ∃ x ∈ [e], limit < x.listLength := by
  rw [exists_long_cons_iff_of_eq_zero he]
  simp only [List.not_mem_nil, false_and, exists_false, not_false_eq_true]

mutual

theorem exists_long_part_iff : ∀ e : Scalar,
    (∃ x ∈ parts e, limit < x.listLength) ↔ e.HasLongList limit
  | column i => by
    refine iff_of_false (not_exists_long_of_eq_zero rfl) ?_
    intro h
    cases h
  | constant c => by
    refine iff_of_false (not_exists_long_of_eq_zero rfl) ?_
    intro h
    cases h
  | binary o l r => by
    rw [parts, exists_long_cons_iff_of_eq_zero rfl, exists_long_append_iff, exists_long_part_iff l,
      exists_long_part_iff r]
    constructor
    · rintro (h | h)
      · exact .left h
      · exact .right h
    · intro h
      cases h with
      | left h => exact Or.inl h
      | right h => exact Or.inr h
  | unary o a => by
    rw [parts, exists_long_cons_iff_of_eq_zero rfl, exists_long_part_iff a]
    constructor
    · exact .unary
    · intro h
      cases h with
      | unary h => exact h
  | inList a vs negated => by
    rw [parts, exists_long_cons_iff, exists_long_part_iff a]
    constructor
    · rintro (h | h)
      · exact .here h
      · exact .member h
    · intro h
      cases h with
      | here h => exact Or.inl h
      | member h => exact Or.inr h
  | call f as => by
    rw [parts, exists_long_cons_iff_of_eq_zero rfl, exists_long_part_of_all_iff as]
    constructor
    · rintro ⟨a, ha, h⟩
      exact .call ha h
    · intro h
      cases h with
      | call ha h => exact ⟨_, ha, h⟩
  | aggregate o distinct a => by
    rw [parts, exists_long_cons_iff_of_eq_zero rfl, exists_long_part_iff a]
    constructor
    · exact .aggregate
    · intro h
      cases h with
      | aggregate h => exact h
  | aggregateRows o distinct => by
    refine iff_of_false (not_exists_long_of_eq_zero rfl) ?_
    intro h
    cases h

theorem exists_long_part_of_all_iff : ∀ es : List Scalar,
    (∃ x ∈ partsAll es, limit < x.listLength) ↔ ∃ e ∈ es, e.HasLongList limit
  | [] => by simp only [partsAll, List.not_mem_nil, false_and, exists_false]
  | e :: es => by
    rw [partsAll, exists_long_append_iff, exists_long_part_iff e, exists_long_part_of_all_iff es]
    simp only [List.mem_cons, exists_eq_or_imp]

end

theorem lt_foldl_max_iff (ns : List Nat) (m : Nat) :
    limit < ns.foldl max m ↔ limit < m ∨ ∃ n ∈ ns, limit < n := by
  induction ns generalizing m with
  | nil => simp only [List.foldl_nil, List.not_mem_nil, false_and, exists_false, or_false]
  | cons n ns ih =>
    have hmax : limit < max m n ↔ limit < m ∨ limit < n := by omega
    rw [List.foldl_cons, ih, hmax, or_assoc]
    simp only [List.mem_cons, exists_eq_or_imp]

theorem isUnsupported_iff (e : Scalar) : e.isUnsupported = true ↔ e.HasLongList listLimit := by
  rw [isUnsupported, decide_eq_true_iff, longestList, lt_foldl_max_iff, ← exists_long_part_iff]
  simp only [Nat.not_lt_zero, false_or, List.mem_map, exists_exists_and_eq_and]

end Scalar

/-! ### Nodes -/

theorem Plan.mem_nodesAll {n : Plan} {ps : List Plan} :
    n ∈ Plan.nodesAll ps ↔ ∃ p ∈ ps, n ∈ p.nodes := by
  induction ps with
  | nil => simp only [nodesAll, List.not_mem_nil, false_and, exists_false]
  | cons p ps ih => simp only [nodesAll, List.mem_append, ih, List.mem_cons, exists_eq_or_imp]

namespace QueryScope

variable {scope : QueryScope}

/-- The expression is one of the operator's own or, for a left-deep join, a condition on one of the levels
of the join tree. -/
inductive Carries (scope : QueryScope) : Operator → Scalar → Prop
  | projected {targets : List Scalar} {e : Scalar} (he : e ∈ targets) : Carries scope (.project targets) e
  | filtered {condition : Scalar} : Carries scope (.filter condition) condition
  | aggregated {groups : Nat} {targets : List Scalar} {e : Scalar} (he : e ∈ targets) :
      Carries scope (.aggregate groups targets) e
  | joined {kind : JoinKind} {condition : Scalar} : Carries scope (.join kind condition) condition
  | compoundCondition {condition : Scalar} {groups : Nat} {targets : List Scalar} :
      Carries scope (.compound (some condition) groups targets) condition
  | compoundTarget {condition : Option Scalar} {groups : Nat} {targets : List Scalar} {e : Scalar}
      (he : e ∈ targets) : Carries scope (.compound condition groups targets) e
  | level {tree : Nat} {levels : List JoinLevel} {l : JoinLevel} {e : Scalar}
      (htree : scope.tree = some tree) (hfind : scope.trees.find? tree = some levels)
      (hl : l ∈ levels) (he : e ∈ l.conditions) : Carries scope .leftDeepJoin e

/-- A node with this operator rules out a code: it scans a table that the catalog lacks, or an expression
that it carries holds a membership list of more than 20 values. -/
def RulesOut (scope : QueryScope) (o : Operator) : Prop :=
  (∃ t, o = .scan t ∧ scope.catalog.find? t = none) ∨
    ∃ e, scope.Carries o e ∧ e.HasLongList 20

/-- No node of the plan rules out a code. -/
def Supports (scope : QueryScope) (p : Plan) : Prop := ∀ n ∈ p.nodes, ¬ scope.RulesOut n.operator

/-- There is no join tree, it is not known, or its levels do not fit the number of inputs. -/
def LacksLevels (scope : QueryScope) (inputs : Nat) : Prop :=
  scope.tree = none ∨ ∃ tree, scope.tree = some tree ∧
    (scope.trees.find? tree = none ∨
      ∃ levels, scope.trees.find? tree = some levels ∧ levels.length + 1 ≠ inputs)

/-- The node is a left-deep join of supported inputs that lacks its levels. -/
def BreaksOff (scope : QueryScope) (n : Plan) : Prop :=
  n.operator = .leftDeepJoin ∧ (∀ p ∈ n.inputs, scope.Supports p) ∧ scope.LacksLevels n.inputs.length

theorem mem_levels_iff {l : JoinLevel} :
    l ∈ scope.levels ↔
      ∃ tree levels, scope.tree = some tree ∧ scope.trees.find? tree = some levels ∧ l ∈ levels := by
  rw [levels]
  cases scope.tree with
  | none => simp
  | some tree =>
    cases hfind : scope.trees.find? tree with
    | none => simp [hfind]
    | some levels => simp [hfind]

/-- The expressions that are looked through for long lists are those that the node carries. -/
theorem carries_iff {o : Operator} {e : Scalar} : scope.Carries o e ↔ e ∈ scope.scalarsOf o := by
  rw [scalarsOf, List.mem_append, List.mem_flatMap]
  constructor
  · intro h
    cases h with
    | projected he => exact Or.inl he
    | filtered => exact Or.inl List.mem_cons_self
    | aggregated he => exact Or.inl he
    | joined => exact Or.inl List.mem_cons_self
    | compoundCondition => exact Or.inl List.mem_cons_self
    | compoundTarget he => exact Or.inl (List.mem_append_right _ he)
    | level htree hfind hl he => exact Or.inr ⟨_, mem_levels_iff.mpr ⟨_, _, htree, hfind, hl⟩, he⟩
  · rintro (hown | ⟨l, hl, he⟩)
    · cases o with
      | project targets => exact .projected hown
      | filter condition =>
        obtain rfl := List.mem_singleton.mp hown
        exact .filtered
      | aggregate groups targets => exact .aggregated hown
      | join kind condition =>
        obtain rfl := List.mem_singleton.mp hown
        exact .joined
      | compound condition groups targets =>
        rcases List.mem_append.mp hown with hcondition | htarget
        · obtain rfl := Option.mem_toList.mp hcondition
          exact .compoundCondition
        · exact .compoundTarget htarget
      | scan | sort | leftDeepJoin | union => cases hown
    · cases o with
      | leftDeepJoin =>
        obtain ⟨tree, levels, htree, hfind, hmem⟩ := mem_levels_iff.mp hl
        exact .level htree hfind hmem he
      | _ => cases hl

theorem levelsOf_cases (scope : QueryScope) (node inputs : Nat) :
    (scope.LacksLevels inputs ∧ ∃ fault, scope.levelsOf node inputs = .error fault) ∨
      (¬ scope.LacksLevels inputs ∧ ∃ ls, scope.levelsOf node inputs = .ok ls) := by
  rw [levelsOf, LacksLevels]
  cases scope.tree with
  | none => exact Or.inl ⟨Or.inl rfl, _, rfl⟩
  | some tree =>
    cases hfind : scope.trees.find? tree with
    | none => exact Or.inl ⟨Or.inr ⟨tree, rfl, Or.inl hfind⟩, _, by simp only [hfind]; rfl⟩
    | some levels =>
      by_cases hcount : levels.length + 1 = inputs
      · refine Or.inr ⟨?_, levels, by simp only [hfind, if_pos hcount]⟩
        simp [hfind, hcount]
      · refine Or.inl ⟨Or.inr ⟨tree, rfl, Or.inr ⟨levels, hfind, hcount⟩⟩,
          .levelCount tree node levels.length inputs, ?_⟩
        simp only [hfind, if_neg hcount]

theorem params_cases (scope : QueryScope) (ls : List JoinLevel) (o : Operator) :
    ((∃ t, o = .scan t ∧ scope.catalog.find? t = none) ∧ ∃ why, scope.params ls o = .error why) ∨
      ((¬ ∃ t, o = .scan t ∧ scope.catalog.find? t = none) ∧ ∃ text, scope.params ls o = .ok text) := by
  cases o with
  | scan t =>
    cases hfind : scope.catalog.find? t with
    | none => exact Or.inl ⟨⟨t, rfl, hfind⟩, _, by simp only [params, hfind]; rfl⟩
    | some info =>
      refine Or.inr ⟨?_, _, by simp only [params, hfind]; rfl⟩
      rintro ⟨t', ht, hnone⟩
      cases ht
      rw [hfind] at hnone
      cases hnone
  | _ =>
    refine Or.inr ⟨?_, _, rfl⟩
    rintro ⟨t, ht, _⟩
    cases ht

theorem joinLevels_cases (scope : QueryScope) (node : Nat) (o : Operator) (inputs : Nat) :
    ((o = .leftDeepJoin ∧ scope.LacksLevels inputs) ∧
        ∃ fault, scope.joinLevels node o inputs = .error fault) ∨
      (¬ (o = .leftDeepJoin ∧ scope.LacksLevels inputs) ∧
        scope.joinLevels node o inputs = .ok (scope.levelsFor o)) := by
  cases o with
  | leftDeepJoin =>
    rcases scope.levelsOf_cases node inputs with ⟨hlacks, hfault⟩ | ⟨hlacks, ls, hls⟩
    · exact Or.inl ⟨⟨rfl, hlacks⟩, hfault⟩
    · have hjoin : scope.joinLevels node .leftDeepJoin inputs = .ok ls := hls
      refine Or.inr ⟨fun h => hlacks h.2, ?_⟩
      rw [hjoin, joinLevels_eq hjoin]
  | _ =>
    refine Or.inr ⟨?_, rfl⟩
    rintro ⟨h, _⟩
    cases h

theorem judge_cases (scope : QueryScope) (node : Nat) (o : Operator) (shapes : List Shape) :
    ((o = .leftDeepJoin ∧ scope.LacksLevels shapes.length) ∧
        ∃ fault, scope.judge node o shapes = .error fault) ∨
      (¬ (o = .leftDeepJoin ∧ scope.LacksLevels shapes.length) ∧
        ∃ v, scope.judge node o shapes = .ok v ∧ (v.shape?.isSome = true ↔ ¬ scope.RulesOut o)) := by
  rw [judge]
  rcases scope.joinLevels_cases node o shapes.length with ⟨hlacks, fault, h⟩ | ⟨hlacks, h⟩ <;> rw [h]
  · exact Or.inl ⟨hlacks, fault, rfl⟩
  · refine Or.inr ⟨hlacks, ?_⟩
    have hlong : (scope.scalarsOf o).any Scalar.isUnsupported = true ↔
        ∃ e, scope.Carries o e ∧ e.HasLongList 20 := by
      simp only [List.any_eq_true, Scalar.isUnsupported_iff, Scalar.listLimit, carries_iff]
    by_cases hany : (scope.scalarsOf o).any Scalar.isUnsupported = true
    · refine ⟨.refused .longList, if_pos hany, ?_⟩
      exact iff_of_false Bool.false_ne_true fun hno => hno (Or.inr (hlong.mp hany))
    · rcases scope.params_cases (scope.levelsFor o) o with
        ⟨hscan, why, hparams⟩ | ⟨hscan, text, hparams⟩
      · refine ⟨.refused why, ?_, ?_⟩
        · simp only [hparams]
          exact if_neg hany
        · exact iff_of_false Bool.false_ne_true fun hno => hno (Or.inl hscan)
      · refine ⟨.shape (.node o.kind (String.ofList text) shapes), ?_, ?_⟩
        · simp only [hparams]
          exact if_neg hany
        · refine iff_of_true rfl ?_
          rintro (h | h)
          · exact hscan h
          · exact hany (hlong.mpr h)

/-! ### Plans -/

theorem supports_node {id : Nat} {o : Operator} {inputs : List Plan} :
    scope.Supports (.node id o inputs) ↔ ¬ scope.RulesOut o ∧ ∀ p ∈ inputs, scope.Supports p := by
  simp only [Supports, Plan.nodes, List.mem_cons, forall_eq_or_imp, Plan.mem_nodesAll]
  refine and_congr_right fun _ => ?_
  constructor
  · intro h p hp n hn
    exact h n ⟨p, hp, hn⟩
  · rintro h n ⟨p, hp, hn⟩
    exact h p hp n hn

theorem length_shapesOf {ps : List Plan} {ss : List Shape}
    (h : scope.shapesOf ps = .ok (some ss)) : ss.length = ps.length := by
  induction ps generalizing ss with
  | nil =>
    cases h
    rfl
  | cons p ps ih =>
    obtain ⟨s, rest, _, hrest, rfl⟩ := shapesOf_cons h
    rw [List.length_cons, List.length_cons, ih hrest]

mutual

theorem shapeOf_cases (scope : QueryScope) : ∀ p : Plan,
    ((∃ n ∈ p.nodes, scope.BreaksOff n) ∧ ∃ fault, scope.shapeOf p = .error fault) ∨
      ((∀ n ∈ p.nodes, ¬ scope.BreaksOff n) ∧
        ∃ s, scope.shapeOf p = .ok s ∧ (s.isSome = true ↔ scope.Supports p))
  | .node id o inputs => by
    simp only [Plan.nodes, List.mem_cons, exists_eq_or_imp, forall_eq_or_imp, supports_node]
    rcases shapesOf_cases scope inputs with ⟨hbreaks, fault, h⟩ | ⟨hnone, _ | shapes, h, hall⟩
    · exact Or.inl ⟨Or.inr hbreaks, fault, by simp only [shapeOf, h]⟩
    · have hinput : ¬ ∀ p ∈ inputs, scope.Supports p := fun hs => nomatch hall.mpr hs
      refine Or.inr ⟨⟨fun hb => hinput hb.2.1, hnone⟩, none, by simp only [shapeOf, h], ?_⟩
      exact iff_of_false Bool.false_ne_true fun hs => hinput hs.2
    · have hinputs : ∀ p ∈ inputs, scope.Supports p := hall.mp rfl
      have hbreak : scope.BreaksOff (.node id o inputs) ↔
          o = .leftDeepJoin ∧ scope.LacksLevels shapes.length := by
        rw [length_shapesOf h]
        exact ⟨fun hb => ⟨hb.1, hb.2.2⟩, fun hb => ⟨hb.1, hinputs, hb.2⟩⟩
      rw [hbreak]
      rcases scope.judge_cases id o shapes with ⟨hlacks, fault, hjudge⟩ | ⟨hlacks, v, hjudge, hv⟩
      · exact Or.inl ⟨Or.inl hlacks, fault, by simp only [shapeOf, h, hjudge]⟩
      · refine Or.inr ⟨⟨hlacks, hnone⟩, v.shape?, by simp only [shapeOf, h, hjudge], ?_⟩
        rw [hv, and_iff_left hinputs]

theorem shapesOf_cases (scope : QueryScope) : ∀ ps : List Plan,
    ((∃ n ∈ Plan.nodesAll ps, scope.BreaksOff n) ∧ ∃ fault, scope.shapesOf ps = .error fault) ∨
      ((∀ n ∈ Plan.nodesAll ps, ¬ scope.BreaksOff n) ∧
        ∃ ss, scope.shapesOf ps = .ok ss ∧ (ss.isSome = true ↔ ∀ p ∈ ps, scope.Supports p))
  | [] => by
    refine Or.inr ⟨List.forall_mem_nil _, some [], rfl, ?_⟩
    exact iff_of_true rfl (List.forall_mem_nil _)
  | p :: ps => by
    rw [Plan.nodesAll, List.forall_mem_append, List.forall_mem_cons]
    rcases shapeOf_cases scope p with ⟨⟨n, hn, hbreaks⟩, fault, h⟩ | ⟨hnone, s, h, hs⟩
    · exact Or.inl ⟨⟨n, List.mem_append_left _ hn, hbreaks⟩, fault, by simp only [shapesOf, h]⟩
    · rcases shapesOf_cases scope ps with ⟨⟨n, hn, hbreaks⟩, fault, hall⟩ | ⟨hnones, ss, hall, hss⟩
      · exact Or.inl ⟨⟨n, List.mem_append_right _ hn, hbreaks⟩, fault,
          by simp only [shapesOf, h, hall]⟩
      · refine Or.inr ⟨⟨hnone, hnones⟩, s.bind fun s => ss.map (s :: ·),
          by simp only [shapesOf, h, hall], ?_⟩
        rw [← hs, ← hss]
        cases s <;> cases ss <;> simp

end

end QueryScope

/-! ### The nodes in a memo -/

namespace Memo

variable {memo : Memo} {ns : List Plan}

/-- With a node the memo has all nodes below it. -/
def Closed (memo : Memo) (ns : List Plan) : Prop :=
  ∀ n ∈ ns, memo.contains n.id = true → ∀ m ∈ n.nodes, memo.contains m.id = true

/-- No node stands in the memo twice. -/
def Distinct (memo : Memo) : Prop := (memo.verdicts.map Prod.fst).Nodup

theorem closed_empty (ns : List Plan) : Memo.empty.Closed ns := by
  intro n _ hn
  cases hn

theorem distinct_empty : Memo.empty.Distinct := List.nodup_nil

theorem contains_iff {id : Nat} : memo.contains id = true ↔ id ∈ memo.verdicts.map Prod.fst := by
  rw [contains, find?, List.lookup_isSome_iff, List.mem_map]
  exact exists_congr fun e => and_congr_right fun _ => by rw [beq_iff_eq, eq_comm]

theorem contains_insert {id id' : Nat} {v : Verdict} :
    (memo.insert id v).contains id' = true ↔ id' = id ∨ memo.contains id' = true := by
  by_cases h : id' = id
  · subst h
    rw [contains, find?_insert_self]
    exact iff_of_true rfl (Or.inl rfl)
  · rw [contains, contains, find?_insert_of_ne memo h, or_iff_right h]

theorem Distinct.insert (hm : memo.Distinct) (id : Nat) (v : Verdict) :
    (memo.insert id v).Distinct := by
  have hrest : ((memo.verdicts.filter (·.1 ≠ id)).map Prod.fst).Sublist
      (memo.verdicts.map Prod.fst) := List.filter_sublist.map _
  refine List.nodup_cons.mpr ⟨?_, hm.sublist hrest⟩
  intro hmem
  obtain ⟨e, he, hid⟩ := List.mem_map.mp hmem
  exact of_decide_eq_true (List.mem_filter.mp he).2 hid

theorem Closed.insert (hm : memo.Closed ns) (hids : Plan.Identified ns) {n : Plan} (hn : n ∈ ns)
    (hinputs : ∀ m ∈ Plan.nodesAll n.inputs, memo.contains m.id = true) (v : Verdict) :
    (memo.insert n.id v).Closed ns := by
  intro m hmem hcontains k hk
  rw [contains_insert] at hcontains ⊢
  rcases hcontains with hid | hcontains
  · rw [hids m hmem n hn hid] at hk
    obtain ⟨id, o, inputs⟩ := n
    rcases List.mem_cons.mp hk with rfl | hk
    · exact Or.inl rfl
    · exact Or.inr (hinputs k hk)
  · exact Or.inr (hm m hmem hcontains k hk)

end Memo

/-- A plan without a shape is refused, and any other is not, whether it finds room or not. -/
theorem Numbering.codeOf_ok (c : Numbering) (s : Option Shape) :
    ∃ code, (c.codeOf (.ok s)).1 = .ok code ∧ (code.unsupported = true ↔ s = none) ∧
      (s = none → code = .refused ∧ (c.codeOf (.ok s)).2 = c) := by
  cases s with
  | none => exact ⟨.refused, rfl, iff_of_true rfl rfl, fun _ => ⟨rfl, rfl⟩⟩
  | some shape =>
    have hsome : some shape ≠ none := Option.some_ne_none shape
    rw [codeOf]
    rcases c.resolve shape.parts with ⟨_ | ns, d⟩
    · exact ⟨.none, rfl, iff_of_false Bool.false_ne_true hsome, fun h => absurd h hsome⟩
    · exact ⟨.ofNumbers ns, rfl, iff_of_false Bool.false_ne_true hsome, fun h => absurd h hsome⟩

namespace QueryScope

variable {scope : QueryScope} {ns : List Plan}

mutual

theorem distinct_visit (scope : QueryScope) : ∀ (p : Plan) {memo : Memo}, memo.Distinct →
    (scope.visit memo p).2.Distinct
  | .node id o inputs, memo, hm => by
    have hall := distinct_visitAll scope inputs hm
    rw [visit]
    cases memo.find? id with
    | some v => exact hm
    | none =>
      rcases h : scope.visitAll memo inputs with ⟨fault | _ | shapes, after⟩ <;> rw [h] at hall
      · exact hall
      · exact hall.insert id _
      · rcases hjudge : scope.judge id o shapes with fault | v <;> simp only [hjudge]
        · exact hall
        · exact hall.insert id v

theorem distinct_visitAll (scope : QueryScope) : ∀ (ps : List Plan) {memo : Memo}, memo.Distinct →
    (scope.visitAll memo ps).2.Distinct
  | [], _, hm => hm
  | p :: ps, memo, hm => by
    have hfirst := distinct_visit scope p hm
    rw [visitAll]
    rcases h : scope.visit memo p with ⟨fault | s, after⟩ <;> rw [h] at hfirst
    · exact hfirst
    · have hrest := distinct_visitAll scope ps hfirst
      rcases hall : scope.visitAll after ps with ⟨fault | ss, last⟩ <;> rw [hall] at hrest <;>
        simp only [hall]
      · exact hrest
      · exact hrest

end

/- The memo is to be closed, or else a node that is known already would be passed over together with
nodes below it that are not. -/
mutual

theorem contains_visit (hids : Plan.Identified ns) :
    ∀ (p : Plan) {memo after : Memo} {s : Option Shape},
    (∀ n ∈ p.nodes, n ∈ ns) → memo.Closed ns → scope.visit memo p = (.ok s, after) →
      after.Closed ns ∧ ∀ id, after.contains id = true ↔
        memo.contains id = true ∨ ∃ n ∈ p.nodes, n.id = id
  | .node id o inputs, memo, after, s, hnodes, hm, h => by
    have hself : Plan.node id o inputs ∈ ns := hnodes _ List.mem_cons_self
    have hadd {last : Memo} (hlast : last.Closed ns) (hall : ∀ id, last.contains id = true ↔
        memo.contains id = true ∨ ∃ n ∈ Plan.nodesAll inputs, n.id = id) (v : Verdict) :
        (last.insert id v).Closed ns ∧ ∀ id', (last.insert id v).contains id' = true ↔
          memo.contains id' = true ∨ ∃ n ∈ Plan.nodes (.node id o inputs), n.id = id' := by
      refine ⟨hlast.insert hids hself (fun m hmem => (hall m.id).mpr (Or.inr ⟨m, hmem, rfl⟩)) v, ?_⟩
      intro id'
      have hroot : (Plan.node id o inputs).id = id' ↔ id' = id := eq_comm
      rw [Memo.contains_insert, hall, Plan.nodes]
      simp only [List.mem_cons, exists_eq_or_imp, hroot]
      exact or_left_comm
    rw [visit] at h
    cases hfind : memo.find? id with
    | some v =>
      rw [hfind] at h
      cases h
      refine ⟨hm, fun id' => (or_iff_left_of_imp ?_).symm⟩
      rintro ⟨n, hn, rfl⟩
      exact hm _ hself (Option.isSome_iff_exists.mpr ⟨v, hfind⟩) n hn
    | none =>
      rw [hfind] at h
      rcases hall : scope.visitAll memo inputs with ⟨fault | _ | shapes, last⟩ <;>
        simp only [hall] at h
      · cases h
      · cases h
        obtain ⟨hlast, hcontains⟩ := contains_visitAll hids inputs
          (fun n hn => hnodes n (List.mem_cons_of_mem _ hn)) hm hall
        exact hadd hlast hcontains _
      · obtain ⟨hlast, hcontains⟩ := contains_visitAll hids inputs
          (fun n hn => hnodes n (List.mem_cons_of_mem _ hn)) hm hall
        rcases hjudge : scope.judge id o shapes with fault | v <;> simp only [hjudge] at h <;> cases h
        exact hadd hlast hcontains v

theorem contains_visitAll (hids : Plan.Identified ns) :
    ∀ (ps : List Plan) {memo after : Memo} {ss : Option (List Shape)},
    (∀ n ∈ Plan.nodesAll ps, n ∈ ns) → memo.Closed ns → scope.visitAll memo ps = (.ok ss, after) →
      after.Closed ns ∧ ∀ id, after.contains id = true ↔
        memo.contains id = true ∨ ∃ n ∈ Plan.nodesAll ps, n.id = id
  | [], memo, after, ss, _, hm, h => by
    cases h
    refine ⟨hm, fun id => (or_iff_left ?_).symm⟩
    rintro ⟨n, hn, _⟩
    cases hn
  | p :: ps, memo, after, ss, hnodes, hm, h => by
    rw [visitAll] at h
    rcases hvisit : scope.visit memo p with ⟨fault | s, mid⟩ <;> simp only [hvisit] at h
    · cases h
    · obtain ⟨hmid, hfirst⟩ := contains_visit hids p
        (fun n hn => hnodes n (List.mem_append_left _ hn)) hm hvisit
      rcases hall : scope.visitAll mid ps with ⟨fault | ss, last⟩ <;> simp only [hall] at h <;> cases h
      obtain ⟨hlast, hrest⟩ := contains_visitAll hids ps
        (fun n hn => hnodes n (List.mem_append_right _ hn)) hmid hall
      refine ⟨hlast, fun id => ?_⟩
      rw [hrest, hfirst, or_assoc, Plan.nodesAll]
      simp only [List.mem_append, or_and_right, exists_or]

end

/-! ### Extractions -/

theorem not_supports_iff {p : Plan} :
    ¬ scope.Supports p ↔ ∃ n ∈ p.nodes, scope.RulesOut n.operator := by
  simp only [Supports, not_forall, not_not, exists_prop]

/-- What is found in the memo of an extraction that does not break off. -/
theorem memo_of_shape {p : Plan} (hids : Plan.Identified p.nodes) {memo : Memo} {s : Option Shape}
    (h : scope.visit .empty p = (.ok s, memo)) :
    (∀ id, memo.contains id = true ↔ ∃ n ∈ p.nodes, n.id = id) ∧
      memo.size = (p.nodes.map Plan.id).dedup.length := by
  have hcontains : ∀ id, memo.contains id = true ↔ ∃ n ∈ p.nodes, n.id = id := by
    intro id
    rw [(contains_visit hids p (fun _ hn => hn) (Memo.closed_empty _) h).2]
    exact or_iff_right Bool.false_ne_true
  have hdistinct : memo.Distinct := by
    have hvisit := scope.distinct_visit p Memo.distinct_empty
    rw [h] at hvisit
    exact hvisit
  have hperm : (memo.verdicts.map Prod.fst).Perm (p.nodes.map Plan.id).dedup := by
    refine (List.perm_ext_iff_of_nodup hdistinct (List.nodup_dedup _)).mpr fun id => ?_
    rw [← Memo.contains_iff, hcontains, List.mem_dedup, List.mem_map]
  refine ⟨hcontains, ?_⟩
  rw [← hperm.length_eq, List.length_map]
  rfl

/-- An extraction that does not break off. -/
theorem extract_of_shape {p : Plan} (hids : Plan.Identified p.nodes) {s : Option Shape}
    (h : scope.shapeOf p = .ok s) (c : Numbering) :
    ∃ code, (extract scope p .empty c).outcome = .ok code ∧ (code.unsupported = true ↔ s = none) ∧
      (s = none → code = .refused ∧ (extract scope p .empty c).numbering = c) ∧
      (∀ id, (extract scope p .empty c).memo.contains id = true ↔ ∃ n ∈ p.nodes, n.id = id) ∧
      (extract scope p .empty c).memo.size = (p.nodes.map Plan.id).dedup.length := by
  have hfaithful := Memo.faithful_empty scope p.nodes
  have heffect := effect_extract_of_faithful hids (fun _ hn => hn) hfaithful c
  rw [h] at heffect
  have hnumbering : (extract scope p .empty c).numbering = (c.codeOf (.ok s)).2 :=
    congrArg Prod.snd heffect
  have hvisit : scope.visit .empty p = (.ok s, (extract scope p .empty c).memo) := by
    refine Prod.ext ?_ (memo_extract scope p .empty c).symm
    rw [(visit_of_faithful hids p (fun _ hn => hn) hfaithful).1, h]
  obtain ⟨code, hcode, hunsupported, hrefused⟩ := c.codeOf_ok s
  rw [hnumbering]
  exact ⟨code, (congrArg Prod.fst heffect).trans hcode, hunsupported, hrefused,
    memo_of_shape hids hvisit⟩

/-- An extraction with an empty memo breaks off exactly if some left-deep join of supported inputs lacks
its levels. Otherwise the plan is refused exactly if one of its nodes rules out a code, and the memo has
all its nodes, each once, and no others. An extraction that breaks off or is refused leaves the
numbering as it was. -/
theorem extract_outcome (scope : QueryScope) (p : Plan) (c : Numbering)
    (hids : Plan.Identified p.nodes) :
    let e := extract scope p .empty c
    ((∃ fault, e.outcome = .error fault) ↔ ∃ n ∈ p.nodes, scope.BreaksOff n) ∧
      (∀ fault, e.outcome = .error fault → e.numbering = c) ∧
      ∀ code, e.outcome = .ok code →
        (code.unsupported = true ↔ ∃ n ∈ p.nodes, scope.RulesOut n.operator) ∧
          (code.unsupported = true → code.numbers = [] ∧ code.text = "" ∧ e.numbering = c) ∧
          (∀ id, e.memo.contains id = true ↔ ∃ n ∈ p.nodes, n.id = id) ∧
          e.memo.size = (p.nodes.map Plan.id).dedup.length := by
  intro e
  rcases scope.shapeOf_cases p with ⟨hbreaks, fault, h⟩ | ⟨hnone, s, h, hs⟩
  · have heffect : e.effect = (.error fault, c) := by
      rw [effect_extract_of_faithful hids (fun _ hn => hn) (Memo.faithful_empty scope _), h]
      rfl
    obtain ⟨houtcome, hnumbering⟩ := Prod.mk.inj heffect
    refine ⟨iff_of_true ⟨fault, houtcome⟩ hbreaks, fun _ _ => hnumbering, ?_⟩
    intro code hcode
    cases houtcome.symm.trans hcode
  · obtain ⟨code, hcode, hunsupported, hrefused, hmemo⟩ := extract_of_shape hids h c
    have hnofault : ¬ ∃ fault, e.outcome = .error fault := by
      rintro ⟨fault, hfault⟩
      cases hcode.symm.trans hfault
    have hnobreak : ¬ ∃ n ∈ p.nodes, scope.BreaksOff n := by
      rintro ⟨n, hn, hbreaks⟩
      exact hnone n hn hbreaks
    have hshape : s = none ↔ ¬ scope.Supports p := by
      rw [← hs, Bool.not_eq_true, Option.isSome_eq_false_iff, Option.isNone_iff_eq_none]
    refine ⟨iff_of_false hnofault hnobreak, fun fault hfault => absurd ⟨fault, hfault⟩ hnofault, ?_⟩
    intro code' hcode'
    cases hcode.symm.trans hcode'
    refine ⟨?_, ?_, hmemo⟩
    · rw [hunsupported, hshape, not_supports_iff]
    · intro h
      obtain ⟨rfl, hsame⟩ := hrefused (hunsupported.mp h)
      exact ⟨rfl, rfl, hsame⟩

/- Neither join has a tree. One has an input with a list of 21 values and is passed over, so its plan is
refused; the other breaks its plan off, which has the same input elsewhere. -/
theorem extract_outcome_without_tree :
    let scope : QueryScope := ⟨⟨[⟨⟨1, 1⟩, "orders", []⟩]⟩, none, .empty, Scalar.render⟩
    let long : Scalar := .inList (.column 0) (List.replicate 21 .null) false
    let known : Plan := .node 1 (.scan ⟨1, 1⟩) []
    let filtered : Plan := .node 2 (.filter (.unary .not (.call "f" [.column 1, long]))) [known]
    let p : Plan := .node 4 (.union true) [.node 3 .leftDeepJoin [known, filtered], known]
    let q : Plan := .node 6 (.union true) [filtered, .node 5 .leftDeepJoin [known, known]]
    let c : Numbering := ⟨[(.node .sort "" [], 0)], 1, 7, 16, 16, 3⟩
    let e := extract scope p .empty c
    let f := extract scope q .empty c
    Plan.Identified p.nodes ∧ Plan.Identified q.nodes ∧
      (e.outcome.toOption, e.memo.size) = (some .refused, 4) ∧
      (f.outcome.toOption, f.memo.size) = (none, 2) ∧
      (¬ ∃ n ∈ p.nodes, scope.BreaksOff n) ∧ (∃ n ∈ p.nodes, scope.RulesOut n.operator) ∧
      (∀ id, e.memo.contains id = true ↔ ∃ n ∈ p.nodes, n.id = id) ∧ e.numbering = c ∧
      (∃ n ∈ q.nodes, scope.BreaksOff n) ∧ f.numbering = c := by
  intro scope long known filtered p q c e f
  have hrefused : (e.outcome.toOption, e.memo.size) = (some .refused, 4) := by decide +kernel +revert
  have hbroken : (f.outcome.toOption, f.memo.size) = (none, 2) := by decide +kernel +revert
  have hp : Plan.Identified p.nodes := by
    refine Plan.identified_of_nodup [p, .node 3 .leftDeepJoin [known, filtered], known, filtered]
      (by decide) ?_
    intro n hn
    simp only [p, known, filtered, Plan.nodesAll, Plan.nodes, List.nil_append, List.append_nil,
      List.cons_append, List.mem_cons, List.not_mem_nil] at hn ⊢
    tauto
  have hq : Plan.Identified q.nodes := by
    refine Plan.identified_of_nodup [q, filtered, known, .node 5 .leftDeepJoin [known, known]]
      (by decide) ?_
    intro n hn
    simp only [q, known, filtered, Plan.nodesAll, Plan.nodes, List.nil_append, List.append_nil,
      List.cons_append, List.mem_cons, List.not_mem_nil] at hn ⊢
    tauto
  obtain ⟨hbreaksE, _, hokE⟩ := extract_outcome scope p c hp
  obtain ⟨hbreaksF, hfaultF, _⟩ := extract_outcome scope q c hq
  have houtcome : e.outcome = .ok .refused := by
    have hsome := (Prod.mk.inj hrefused).1
    rcases h : e.outcome with fault | code <;> rw [h] at hsome <;> cases hsome
    rfl
  obtain ⟨fault, hfault⟩ : ∃ fault, f.outcome = .error fault := by
    have hnone := (Prod.mk.inj hbroken).1
    rcases h : f.outcome with fault | code <;> rw [h] at hnone <;> cases hnone
    exact ⟨fault, rfl⟩
  obtain ⟨hrules, hunchanged, hcontains, _⟩ := hokE _ houtcome
  refine ⟨hp, hq, hrefused, hbroken, ?_, hrules.mp rfl, hcontains, (hunchanged rfl).2.2,
    hbreaksF.mp ⟨fault, hfault⟩, hfaultF fault hfault⟩
  intro hbreaks
  obtain ⟨fault, h⟩ := hbreaksE.mpr hbreaks
  cases houtcome.symm.trans h

end QueryScope

end PlanReuse
