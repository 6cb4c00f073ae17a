import Mathlib.Data.List.Forall2
import Mathlib.Tactic.Order.ToInt
import PlanReuse.Numbering.Basic
import PlanReuse.Numbering.Signature

/-!
# Digests and structure

Two signatures agree exactly if they are signatures of one shape. The digests only make the test quick:
under any hash function a digest is a function of the shape below it, so equal shapes never fail the test
by their digests, and different shapes never pass it, even where all digests are the same. A hash table
that is keyed by digests therefore finds what a search through the shapes finds.
-/

namespace PlanReuse

namespace Signature

/-! ### Agreement is equality -/

mutual

theorem eq_of_agreement : ∀ {s t : Signature}, (agreement s t).1 = true → s = t
  | node k p is d, node k' p' is' d', h => by
    simp only [agreement, Bool.and_eq_true, beq_iff_eq, decide_eq_true_eq] at h
    obtain ⟨⟨⟨hd, hk⟩, hp⟩, his⟩ := h
    rw [hd, hk, hp, eq_of_agreements his]

theorem eq_of_agreements : ∀ {ss ts : List Signature}, (agreements ss ts).1 = true → ss = ts
  | [], [], _ => rfl
  | [], _ :: _, h => by cases h
  | _ :: _, [], h => by cases h
  | s :: ss, t :: ts, h => by
    simp only [agreements, withPtrEq, Bool.and_eq_true] at h
    rw [eq_of_agreement h.1, eq_of_agreements h.2]

end

theorem agree_iff_eq {s t : Signature} : s.agree t = true ↔ s = t :=
  ⟨eq_of_agreement, fun h => h ▸ s.agree_self⟩

instance : BEq Signature := ⟨agree⟩

instance : LawfulBEq Signature where
  eq_of_beq := agree_iff_eq.mp
  rfl := agree_self _

/-- A table keyed by signatures looks at the digest alone. -/
instance : Hashable Signature := ⟨digest⟩

/-! ### Shared parts -/

mutual

/-- The comparison with its shortcut in sight: `same` knows of some pairs that they are one signature,
and these are passed over. -/
def agreeKnowing (same : Signature → Signature → Bool) : Signature → Signature → Bool
  | node k p is d, node k' p' is' d' =>
    same (node k p is d) (node k' p' is' d') ||
      (d == d' && decide (k = k') && p == p' && agreeKnowingAll same is is')

def agreeKnowingAll (same : Signature → Signature → Bool) : List Signature → List Signature → Bool
  | [], [] => true
  | [], _ :: _ => false
  | _ :: _, [] => false
  | s :: ss, t :: ts => agreeKnowing same s t && agreeKnowingAll same ss ts

end

variable {same : Signature → Signature → Bool}

mutual

theorem agreeKnowing_self : ∀ s : Signature, agreeKnowing same s s = true
  | node k p is d => by simp [agreeKnowing, agreeKnowingAll_self is]

theorem agreeKnowingAll_self : ∀ ss : List Signature, agreeKnowingAll same ss ss = true
  | [] => rfl
  | s :: ss => by simp [agreeKnowingAll, agreeKnowing_self s, agreeKnowingAll_self ss]

end

mutual

theorem eq_of_agreeKnowing (hsame : ∀ s t, same s t = true → s = t) :
    ∀ {s t : Signature}, agreeKnowing same s t = true → s = t
  | node k p is d, node k' p' is' d', h => by
    simp only [agreeKnowing, Bool.or_eq_true, Bool.and_eq_true, beq_iff_eq, decide_eq_true_eq] at h
    rcases h with h | ⟨⟨⟨hd, hk⟩, hp⟩, his⟩
    · exact hsame _ _ h
    · rw [hd, hk, hp, eq_of_agreeKnowingAll hsame his]

theorem eq_of_agreeKnowingAll (hsame : ∀ s t, same s t = true → s = t) :
    ∀ {ss ts : List Signature}, agreeKnowingAll same ss ts = true → ss = ts
  | [], [], _ => rfl
  | [], _ :: _, h => by cases h
  | _ :: _, [], h => by cases h
  | s :: ss, t :: ts, h => by
    simp only [agreeKnowingAll, Bool.and_eq_true] at h
    rw [eq_of_agreeKnowing hsame h.1, eq_of_agreeKnowingAll hsame h.2]

end

/-- What is known to be shared changes no answer. -/
theorem agreeKnowing_eq_agree (hsame : ∀ s t, same s t = true → s = t) (s t : Signature) :
    agreeKnowing same s t = s.agree t := by
  rw [Bool.eq_iff_iff, agree_iff_eq]
  exact ⟨eq_of_agreeKnowing hsame, fun h => h ▸ agreeKnowing_self s⟩

/-! ### Signatures that were made -/

variable {hash : List UInt8 → UInt64} {s t : Signature}

/-- Signatures made from the inputs up, all under one hash function. -/
inductive Made (hash : List UInt8 → UInt64) : Signature → Prop
  | intro (kind : OperatorKind) (params : String) {inputs : List Signature}
      (made : ∀ i ∈ inputs, Made hash i) : Made hash (make hash kind params inputs)

mutual

/-- The structure without the digests. -/
def shape : Signature → Shape
  | node k p is _ => .node k p (shapes is)

def shapes : List Signature → List Shape
  | [] => []
  | s :: ss => shape s :: shapes ss

end

mutual

theorem shape_ofShape (hash : List UInt8 → UInt64) : ∀ s : Shape, (ofShape hash s).shape = s
  | .node k p is => by rw [ofShape, make, shape, shapes_ofShapes hash is]

theorem shapes_ofShapes (hash : List UInt8 → UInt64) :
    ∀ ss : List Shape, shapes (ofShapes hash ss) = ss
  | [] => rfl
  | s :: ss => by rw [ofShapes, shapes, shape_ofShape hash s, shapes_ofShapes hash ss]

end

mutual

theorem made_ofShape (hash : List UInt8 → UInt64) : ∀ s : Shape, Made hash (ofShape hash s)
  | .node k p is => .intro k p (made_ofShapes hash is)

theorem made_ofShapes (hash : List UInt8 → UInt64) :
    ∀ ss : List Shape, ∀ i ∈ ofShapes hash ss, Made hash i
  | [], i, hi => by cases hi
  | s :: ss, i, hi => by
    rcases List.mem_cons.mp hi with rfl | hi
    · exact made_ofShape hash s
    · exact made_ofShapes hash ss i hi

end

/-- Nothing but the shape goes into a signature: its digests can be taken again. -/
theorem Made.ofShape_shape (h : Made hash s) : ofShape hash s.shape = s := by
  induction h with
  | @intro k p is made ih =>
    have hinputs : ∀ js : List Signature, (∀ j ∈ js, ofShape hash j.shape = j) →
        ofShapes hash (shapes js) = js := by
      intro js hjs
      induction js with
      | nil => rfl
      | cons j js ihjs =>
        rw [shapes, ofShapes, hjs j List.mem_cons_self,
          ihjs fun i hi => hjs i (List.mem_cons_of_mem j hi)]
    rw [make, shape, ofShape, hinputs is ih, make]

theorem Made.eq_iff_shape_eq (hs : Made hash s) (ht : Made hash t) : s = t ↔ s.shape = t.shape := by
  constructor
  · exact congrArg shape
  · intro h
    rw [← hs.ofShape_shape, ← ht.ofShape_shape, h]

theorem Made.eq_iff_fields_eq (hs : Made hash s) (ht : Made hash t) :
    s = t ↔ s.kind = t.kind ∧ s.params = t.params ∧ s.inputs = t.inputs := by
  cases hs with
  | intro k p _ =>
  cases ht with
  | intro k' p' _ =>
    constructor
    · intro h
      exact ⟨congrArg kind h, congrArg params h, congrArg inputs h⟩
    · rintro ⟨hk, hp, his⟩
      simp only [make, kind, params, inputs] at hk hp his
      rw [hk, hp, his]

theorem forall₂_agree_iff_eq {ss ts : List Signature} :
    List.Forall₂ (fun s t => s.agree t = true) ss ts ↔ ss = ts := by
  simp only [agree_iff_eq, List.forall₂_eq_eq_eq]

end Signature

/-! ### Tables keyed by digests -/

namespace Numbering

variable {hash : List UInt8 → UInt64} {s : Signature}

/-- The numbered shapes in a table that is searched by digest. -/
def table (hash : List UInt8 → UInt64) (c : Numbering) : Std.HashMap Signature Nat :=
  c.entries.foldr (fun e m => m.insert (Signature.ofShape hash e.1) e.2) ∅

/-- The table gives the number that a search through the shapes gives. -/
theorem getElem?_table (hs : s.Made hash) (c : Numbering) :
    (c.table hash)[s]? = c.numberOf? s.shape := by
  rw [table, numberOf?]
  induction c.entries with
  | nil => exact Std.HashMap.getElem?_empty
  | cons e es ih =>
    rw [List.foldr_cons, Std.HashMap.getElem?_insert, ih, List.lookup_cons]
    -- The table tests signatures and the search tests shapes; on what was made they agree.
    have hkey : (Signature.ofShape hash e.1 == s) = (s.shape == e.1) := by
      rw [Bool.eq_iff_iff, beq_iff_eq, beq_iff_eq,
        (Signature.made_ofShape hash e.1).eq_iff_shape_eq hs, Signature.shape_ofShape, eq_comm]
    rw [hkey]
    cases s.shape == e.1 <;> rfl

/-- It holds the signatures of the numbered shapes and no others. -/
theorem mem_table (hs : s.Made hash) (c : Numbering) :
    s ∈ c.table hash ↔ ∃ n, (s.shape, n) ∈ c.entries := by
  rw [Std.HashMap.mem_iff_isSome_getElem?, getElem?_table hs, numberOf?, Option.isSome_iff_ne_none,
    Ne, List.lookup_eq_none_iff]
  constructor
  · intro h
    by_contra hnone
    refine h fun e he => ?_
    rw [bne_iff_ne]
    intro heq
    exact hnone ⟨e.2, heq ▸ he⟩
  · rintro ⟨n, hn⟩ h
    exact bne_iff_ne.mp (h _ hn) rfl

end Numbering

/-! ### The digest decides nothing -/

namespace Signature

variable {hash : List UInt8 → UInt64} {s t : Signature}

/-- Under any hash function, signatures agree exactly if kind, parameters and, in order, all inputs agree,
and so down to the leaves; shared parts make no difference; signatures that agree have one digest; and a
table keyed by digests gives each shape its own number. -/
theorem agree_iff_structure (hs : Made hash s) (ht : Made hash t) :
    (s.agree t = true ↔
        s.kind = t.kind ∧ s.params = t.params ∧
          List.Forall₂ (fun i j => i.agree j = true) s.inputs t.inputs) ∧
      (s.agree t = true ↔ s.shape = t.shape) ∧
      (∀ same : Signature → Signature → Bool, (∀ a b, same a b = true → a = b) →
        agreeKnowing same s t = s.agree t) ∧
      (s.agree t = true → s.digest = t.digest) ∧
      ∀ c : Numbering, (c.table hash)[s]? = c.numberOf? s.shape ∧
        (s ∈ c.table hash ↔ ∃ n, (s.shape, n) ∈ c.entries) := by
  refine ⟨?_, ?_, fun same hsame => agreeKnowing_eq_agree hsame s t, ?_,
    fun c => ⟨c.getElem?_table hs, c.mem_table hs⟩⟩
  · rw [agree_iff_eq, forall₂_agree_iff_eq, hs.eq_iff_fields_eq ht]
  · rw [agree_iff_eq, hs.eq_iff_shape_eq ht]
  · intro h
    rw [agree_iff_eq.mp h]

/- Two unions of the same tables in a different order, under a hash function that tells nothing apart. -/
theorem agree_iff_structure_of_constant_hash :
    let hash : List UInt8 → UInt64 := fun _ => 7
    let one := make hash .scan "1:1" []
    let two := make hash .scan "1:2" []
    let s := make hash .union "all" [one, two]
    let t := make hash .union "all" [two, one]
    s.digest = t.digest ∧ s.agree t = false ∧
      ∀ c : Numbering, (c.table hash)[s]? = c.numberOf? s.shape ∧
        (s ∈ c.table hash ↔ ∃ n, (s.shape, n) ∈ c.entries) := by
  intro hash one two s t
  have scanned : ∀ (table : String), Made hash (make hash .scan table []) := fun table =>
    .intro .scan table fun i hi => by cases hi
  have made : ∀ is : List Signature, (∀ i ∈ is, i = one ∨ i = two) →
      Made hash (make hash .union "all" is) := fun is his => .intro .union "all" fun i hi => by
    rcases his i hi with rfl | rfl
    · exact scanned "1:1"
    · exact scanned "1:2"
  have holds := agree_iff_structure (made [one, two] (by simp)) (made [two, one] (by simp))
  refine ⟨rfl, ?_, holds.2.2.2.2⟩
  rw [← Bool.not_eq_true, holds.2.1]
  decide

end Signature

end PlanReuse
