import PlanReuse.Proofs.Numbering.Consistency
import PlanReuse.Proofs.Numbering.Digests

/-!
# A numbering as two maps

A numbering can be kept as two hash tables, one from signatures to numbers and one back, which every
change has to keep in step. Under any hash function they follow the one list of numbered shapes through
every run and give all the same answers; so no run ever brings them apart.
-/

namespace PlanReuse

/-- The two directions of look-up, each in a table of its own. -/
structure NumberMaps where
  numbers : Std.HashMap Signature Nat
  signatures : Std.HashMap Nat Signature
  next : Nat
  generation : Nat
  limit : Nat
  shapeBytes : Nat
  overflows : Nat

namespace NumberMaps

open Signature (ofShape ofShapes Made)
open PlanReuse.Numbering (Action)

/-! ### Changing both -/

def empty (limit shapeBytes : Nat) : NumberMaps :=
  { numbers := ∅, signatures := ∅, next := 0, generation := 0, limit, shapeBytes, overflows := 0 }

def clear (m : NumberMaps) : NumberMaps :=
  { m with numbers := ∅, signatures := ∅, next := 0, generation := m.generation + 1 }

def setLimit (m : NumberMaps) (limit : Nat) : NumberMaps := { m with limit }

def hasRoom (m : NumberMaps) : Bool :=
  min ((m.numbers.size + 1) * m.shapeBytes) maxWord ≤ m.limit

def push (m : NumberMaps) (s : Signature) : NumberMaps :=
  { m with
    numbers := m.numbers.insert s m.next
    signatures := m.signatures.insert m.next s
    next := m.next + 1 }

def assign (m : NumberMaps) (s : Signature) : Option Nat × NumberMaps :=
  match m.numbers[s]? with
  | some n => (some n, m)
  | none => if m.hasRoom then (some m.next, m.push s) else (none, m.clear)

def assignAll : NumberMaps → List Signature → Option (List Nat) × NumberMaps
  | m, [] => (some [], m)
  | m, s :: ss =>
    match m.assign s with
    | (none, m') => (none, m')
    | (some n, m') =>
      match assignAll m' ss with
      | (none, m'') => (none, m'')
      | (some ns, m'') => (some (n :: ns), m'')

def resolve (m : NumberMaps) (ss : List Signature) : Option Numbers × NumberMaps :=
  match m.assignAll ss with
  | (some ns, m') => (some ⟨ns, m'.generation⟩, m')
  | (none, m') => (none, { m' with overflows := m'.overflows + 1 })

def resolveOne (m : NumberMaps) (s : Signature) : Option Nat × NumberMaps :=
  let (r, m') := m.resolve [s]
  (r.bind fun ns => ns.numbers.head?, m')

variable (hash : List UInt8 → UInt64)

/-- An action on shapes, done with their signatures. -/
def act (m : NumberMaps) : Action → NumberMaps
  | .resolve ss => (m.resolve (ofShapes hash ss)).2
  | .resolveOne s => (m.resolveOne (ofShape hash s)).2
  | .setLimit limit => m.setLimit limit
  | .clear => m.clear

def run (m : NumberMaps) (actions : List Action) : NumberMaps := actions.foldl (act hash) m

/-! ### Following a list of shapes -/

/-- The maps answer what the table of shapes answers, in both directions. -/
structure Follows (m : NumberMaps) (c : Numbering) : Prop where
  numbers : ∀ s, m.numbers[ofShape hash s]? = c.numberOf? s
  made : ∀ s ∈ m.numbers, s.Made hash
  signatures : ∀ n, m.signatures[n]? = (c.shapeOf? n).map (ofShape hash)
  size_numbers : m.numbers.size = c.size
  size_signatures : m.signatures.size = c.size
  next : m.next = c.next
  generation : m.generation = c.generation
  limit : m.limit = c.limit
  shapeBytes : m.shapeBytes = c.shapeBytes
  overflows : m.overflows = c.overflows

variable {hash} {m : NumberMaps} {c : Numbering}

theorem ofShape_beq (s t : Shape) : (ofShape hash s == ofShape hash t) = decide (t = s) := by
  rw [Bool.eq_iff_iff, beq_iff_eq, decide_eq_true_iff]
  constructor
  · intro h
    rw [← Signature.shape_ofShape hash s, ← Signature.shape_ofShape hash t, h]
  · rintro rfl
    rfl

theorem follows_empty (limit shapeBytes : Nat) :
    Follows hash (empty limit shapeBytes) (Numbering.empty limit shapeBytes) where
  numbers _ := Std.HashMap.getElem?_empty
  made _ hs := absurd hs Std.HashMap.not_mem_empty
  signatures _ := Std.HashMap.getElem?_empty
  size_numbers := Std.HashMap.size_empty
  size_signatures := Std.HashMap.size_empty
  next := rfl
  generation := rfl
  limit := rfl
  shapeBytes := rfl
  overflows := rfl

theorem Follows.clear (h : Follows hash m c) : Follows hash m.clear c.clear where
  numbers _ := Std.HashMap.getElem?_empty
  made _ hs := absurd hs Std.HashMap.not_mem_empty
  signatures _ := Std.HashMap.getElem?_empty
  size_numbers := Std.HashMap.size_empty
  size_signatures := Std.HashMap.size_empty
  next := rfl
  generation := congrArg (· + 1) h.generation
  limit := h.limit
  shapeBytes := h.shapeBytes
  overflows := h.overflows

theorem Follows.setLimit (h : Follows hash m c) (limit : Nat) :
    Follows hash (m.setLimit limit) (c.setLimit limit) :=
  { h with limit := rfl }

theorem Follows.overflow (h : Follows hash m c) :
    Follows hash { m with overflows := m.overflows + 1 } { c with overflows := c.overflows + 1 } :=
  { h with overflows := congrArg (· + 1) h.overflows }

theorem Follows.hasRoom (h : Follows hash m c) : m.hasRoom = c.hasRoom := by
  rw [NumberMaps.hasRoom, Numbering.hasRoom, h.size_numbers, h.shapeBytes, h.limit]

/-- A number that is given goes into both maps; neither had a use for it. -/
theorem Follows.push (h : Follows hash m c) (hc : c.Sound) {s : Shape} (hs : c.numberOf? s = none) :
    Follows hash (m.push (ofShape hash s)) (c.push s) := by
  have hnew : ofShape hash s ∉ m.numbers := by
    rw [Std.HashMap.mem_iff_isSome_getElem?, h.numbers, hs]
    exact Bool.false_ne_true
  have hfree : m.next ∉ m.signatures := by
    have hnone : c.shapeOf? c.next = none := by
      rw [← Option.not_isSome_iff_eq_none, hc.isSome_shapeOf?_iff, hc.next_eq_size]
      exact Nat.lt_irrefl c.size
    rw [Std.HashMap.mem_iff_isSome_getElem?, h.signatures, h.next, hnone]
    exact Bool.false_ne_true
  constructor
  case numbers =>
    intro t
    show (m.numbers.insert (ofShape hash s) m.next)[ofShape hash t]? = _
    rw [Std.HashMap.getElem?_insert, ofShape_beq, Numbering.numberOf?_push, h.numbers, h.next]
    simp only [decide_eq_true_eq]
  case made =>
    intro t ht
    rcases Std.HashMap.mem_insert.mp ht with heq | hold
    · rw [← beq_iff_eq.mp heq]
      exact Signature.made_ofShape hash s
    · exact h.made t hold
  case signatures =>
    intro n
    show (m.signatures.insert m.next (ofShape hash s))[n]? = _
    rw [Std.HashMap.getElem?_insert, Numbering.shapeOf?_push, h.signatures, h.next]
    by_cases hn : c.next = n
    · rw [if_pos (beq_iff_eq.mpr hn), if_pos hn, Option.map_some]
    · rw [if_neg (fun heq => hn (beq_iff_eq.mp heq)), if_neg hn]
  case size_numbers =>
    show (m.numbers.insert (ofShape hash s) m.next).size = c.size + 1
    rw [Std.HashMap.size_insert, if_neg hnew, h.size_numbers]
  case size_signatures =>
    show (m.signatures.insert m.next (ofShape hash s)).size = c.size + 1
    rw [Std.HashMap.size_insert, if_neg hfree, h.size_signatures]
  case next => exact congrArg (· + 1) h.next
  case generation => exact h.generation
  case limit => exact h.limit
  case shapeBytes => exact h.shapeBytes
  case overflows => exact h.overflows

/-! ### One step, and runs -/

theorem Follows.assign (h : Follows hash m c) (hc : c.Sound) (s : Shape) :
    (m.assign (ofShape hash s)).1 = (c.assign s).1 ∧
      Follows hash (m.assign (ofShape hash s)).2 (c.assign s).2 := by
  have hlook := h.numbers s
  rcases c.assign_cases s with ⟨n, hs, he⟩ | ⟨hs, hroom, he⟩ | ⟨hs, hroom, he⟩
  · have hm : m.assign (ofShape hash s) = (some n, m) := by
      rw [NumberMaps.assign, hlook, hs]
    rw [hm, he]
    exact ⟨rfl, h⟩
  · have hm : m.assign (ofShape hash s) = (some m.next, m.push (ofShape hash s)) := by
      simp only [NumberMaps.assign, hlook, hs, h.hasRoom, hroom, if_true]
    rw [hm, he]
    exact ⟨congrArg some h.next, h.push hc hs⟩
  · have hm : m.assign (ofShape hash s) = (none, m.clear) := by
      simp only [NumberMaps.assign, hlook, hs, h.hasRoom, hroom, Bool.false_eq_true, if_false]
    rw [hm, he]
    exact ⟨rfl, h.clear⟩

theorem Follows.assignAll (h : Follows hash m c) (hc : c.Sound) (ss : List Shape) :
    (m.assignAll (ofShapes hash ss)).1 = (c.assignAll ss).1 ∧
      Follows hash (m.assignAll (ofShapes hash ss)).2 (c.assignAll ss).2 := by
  induction ss generalizing m c with
  | nil => exact ⟨rfl, h⟩
  | cons s ss ih =>
    obtain ⟨hanswer, hafter⟩ := h.assign hc s
    have hsound := hc.assign s
    rw [ofShapes, NumberMaps.assignAll, Numbering.assignAll]
    rcases hm : m.assign (ofShape hash s) with ⟨r, m'⟩
    rcases he : c.assign s with ⟨r', c'⟩
    rw [hm, he] at hanswer hafter
    rw [he] at hsound
    obtain rfl : r = r' := hanswer
    cases r with
    | none => exact ⟨rfl, hafter⟩
    | some n =>
      obtain ⟨hrest, hlast⟩ := ih hafter hsound
      rcases hm' : m'.assignAll (ofShapes hash ss) with ⟨rs, m''⟩
      rcases he' : c'.assignAll ss with ⟨rs', c''⟩
      rw [hm', he'] at hrest hlast
      obtain rfl : rs = rs' := hrest
      simp only [hm', he']
      cases rs with
      | none => exact ⟨rfl, hlast⟩
      | some ns => exact ⟨rfl, hlast⟩

theorem Follows.resolve (h : Follows hash m c) (hc : c.Sound) (ss : List Shape) :
    (m.resolve (ofShapes hash ss)).1 = (c.resolve ss).1 ∧
      Follows hash (m.resolve (ofShapes hash ss)).2 (c.resolve ss).2 := by
  obtain ⟨hanswer, hafter⟩ := h.assignAll hc ss
  rw [NumberMaps.resolve, Numbering.resolve]
  rcases hm : m.assignAll (ofShapes hash ss) with ⟨r, m'⟩
  rcases he : c.assignAll ss with ⟨r', c'⟩
  rw [hm, he] at hanswer hafter
  obtain rfl : r = r' := hanswer
  cases r with
  | none => exact ⟨rfl, hafter.overflow⟩
  | some ns =>
    refine ⟨?_, hafter⟩
    show some (Numbers.mk ns m'.generation) = some (Numbers.mk ns c'.generation)
    rw [hafter.generation]

theorem Follows.resolveOne (h : Follows hash m c) (hc : c.Sound) (s : Shape) :
    (m.resolveOne (ofShape hash s)).1 = (c.resolveOne s).1 ∧
      Follows hash (m.resolveOne (ofShape hash s)).2 (c.resolveOne s).2 := by
  obtain ⟨hanswer, hafter⟩ := h.resolve hc [s]
  exact ⟨congrArg (fun r : Option Numbers => r.bind fun ns => ns.numbers.head?) hanswer, hafter⟩

theorem Follows.act (h : Follows hash m c) (hc : c.Sound) (a : Action) :
    Follows hash (m.act hash a) (c.act a) := by
  cases a with
  | resolve ss => exact (h.resolve hc ss).2
  | resolveOne s => exact (h.resolveOne hc s).2
  | setLimit limit => exact h.setLimit limit
  | clear => exact h.clear

theorem Follows.run (h : Follows hash m c) (hc : c.Sound) (as : List Action) :
    Follows hash (m.run hash as) (c.run as) := by
  induction as generalizing m c with
  | nil => exact h
  | cons a as ih => exact ih (h.act hc a) (hc.act a)

/-! ### The maps undo each other -/

theorem Follows.inverse (h : Follows hash m c) (hc : c.Sound) (s : Signature) (n : Nat) :
    m.numbers[s]? = some n ↔ m.signatures[n]? = some s := by
  have hboth (t : Shape) : c.numberOf? t = some n ↔ c.shapeOf? n = some t := by
    rw [hc.numberOf?_eq_some_iff, hc.shapeOf?_eq_some_iff]
  rw [h.signatures, Option.map_eq_some_iff]
  constructor
  · intro hs
    have hmade := h.made s (Std.HashMap.mem_iff_isSome_getElem?.mpr (by rw [hs]; rfl))
    refine ⟨s.shape, ?_, hmade.ofShape_shape⟩
    rw [← hboth, ← h.numbers, hmade.ofShape_shape, hs]
  · rintro ⟨t, ht, rfl⟩
    rw [h.numbers, hboth, ht]

variable (hash) in
/-- After every run a signature has a number exactly if the number stands for the signature, the two maps
hold equally much, and they resolve whatever is asked as the list of shapes does. -/
theorem inverse_run (limit shapeBytes : Nat) (as : List Action) :
    let m := (empty limit shapeBytes).run hash as
    let c := (Numbering.empty limit shapeBytes).run as
    (∀ (s : Signature) (n : Nat), m.numbers[s]? = some n ↔ m.signatures[n]? = some s) ∧
      m.numbers.size = m.signatures.size ∧
      (∀ s, m.numbers[ofShape hash s]? = c.numberOf? s) ∧
      (∀ n : Nat, m.signatures[n]? = (c.shapeOf? n).map (ofShape hash)) ∧
      (∀ ss, (m.resolve (ofShapes hash ss)).1 = (c.resolve ss).1) ∧
      ∀ s, (m.resolveOne (ofShape hash s)).1 = (c.resolveOne s).1 := by
  intro m c
  have hempty : (Numbering.empty limit shapeBytes).Sound := Numbering.sound_empty limit shapeBytes
  have hc : c.Sound := hempty.run as
  have h : Follows hash m c := (follows_empty limit shapeBytes).run hempty as
  refine ⟨h.inverse hc, ?_, h.numbers, h.signatures, ?_, ?_⟩
  · rw [h.size_numbers, h.size_signatures]
  · exact fun ss => (h.resolve hc ss).1
  · exact fun s => (h.resolveOne hc s).1

end NumberMaps

end PlanReuse
