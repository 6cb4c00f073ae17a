import PlanReuse.Proofs.Numbering.History

/-!
# Consistency of a numbering

At every moment of a run the two directions of look-up undo each other, the numbers in use are those from
zero on, the generation counts how often the table was dropped, and the bytes of the table stay within
the limit that was in force when the latest number was given. A limit lowered since then says nothing
about what the table holds already.
-/

namespace PlanReuse.Numbering

/-! ### Both directions of look-up -/

theorem Sound.next_eq_size {c : Numbering} (hc : c.Sound) : c.next = c.size := by
  have hlength := congrArg List.length hc.numbers
  rw [List.length_map, List.length_reverse, List.length_range] at hlength
  exact hlength.symm

theorem Sound.numberOf?_eq_some_iff {c : Numbering} (hc : c.Sound) {s : Shape} {n : Nat} :
    c.numberOf? s = some n ↔ (s, n) ∈ c.entries :=
  lookup_eq_some_iff_of_nodup hc.distinct

theorem Sound.shapeOf?_eq_some_iff {c : Numbering} (hc : c.Sound) {s : Shape} {n : Nat} :
    c.shapeOf? n = some s ↔ (s, n) ∈ c.entries := by
  rw [shapeOf?, Option.map_eq_some_iff]
  constructor
  · rintro ⟨⟨t, m⟩, hfound, rfl⟩
    obtain ⟨hmem, rfl⟩ := (find?_eq_some_iff_of_nodup hc.nodup_numbers).mp hfound
    exact hmem
  · intro hmem
    exact ⟨(s, n), (find?_eq_some_iff_of_nodup hc.nodup_numbers).mpr ⟨hmem, rfl⟩, rfl⟩

theorem Sound.isSome_shapeOf?_iff {c : Numbering} (hc : c.Sound) (n : Nat) :
    (c.shapeOf? n).isSome = true ↔ n < c.size := by
  have hused : n ∈ c.entries.map Prod.snd ↔ n < c.size := by
    rw [hc.numbers, List.mem_reverse, List.mem_range, hc.next_eq_size]
  rw [← hused, Option.isSome_iff_exists]
  constructor
  · rintro ⟨s, hs⟩
    exact List.mem_map_of_mem (f := Prod.snd) (hc.shapeOf?_eq_some_iff.mp hs)
  · intro hn
    obtain ⟨⟨s, m⟩, hmem, rfl⟩ := List.mem_map.mp hn
    exact ⟨s, hc.shapeOf?_eq_some_iff.mpr hmem⟩

/-! ### Drops and refusals -/

/-- Whether an action is a resolution that gives nothing. -/
def refuses (c : Numbering) : Action → Bool
  | .resolve ss => (c.resolve ss).1.isNone
  | .resolveOne s => (c.resolveOne s).1.isNone
  | _ => false

/-- How many resolutions of a run give nothing. -/
def refusals : Numbering → List Action → Nat
  | _, [] => 0
  | c, a :: as => (c.refuses a).toNat + refusals (c.act a) as

def Action.isClear : Action → Bool
  | .clear => true
  | _ => false

theorem overflows_assign (c : Numbering) (s : Shape) : (c.assign s).2.overflows = c.overflows := by
  rcases c.assign_cases s with ⟨n, _, h⟩ | ⟨_, _, h⟩ | ⟨_, _, h⟩ <;> rw [h] <;> rfl

theorem overflows_assignAll (c : Numbering) (ss : List Shape) :
    (c.assignAll ss).2.overflows = c.overflows := by
  induction ss generalizing c with
  | nil => rfl
  | cons s ss ih =>
    have hfirst := c.overflows_assign s
    rcases h : c.assign s with ⟨_ | n, d⟩ <;> rw [h] at hfirst
    · rw [assignAll_cons_none h]
      exact hfirst
    · rw [assignAll_cons_some h]
      exact (ih d).trans hfirst

/-- A resolution that gives nothing drops the table and is counted; any other does neither. -/
theorem counts_resolve (c : Numbering) (ss : List Shape) :
    (c.resolve ss).2.generation = c.generation + (c.resolve ss).1.isNone.toNat ∧
      (c.resolve ss).2.overflows = c.overflows + (c.resolve ss).1.isNone.toNat := by
  have hoverflows := c.overflows_assignAll ss
  rw [resolve]
  rcases h : c.assignAll ss with ⟨_ | ns, d⟩ <;> rw [h] at hoverflows
  · exact ⟨(assignAll_none h).1, congrArg (· + 1) hoverflows⟩
  · exact ⟨(assignAll_some h).1.generation, hoverflows⟩

/-- One shape is refused its number exactly if the list of it is refused. -/
theorem isNone_resolveOne (c : Numbering) (s : Shape) :
    (c.resolveOne s).1.isNone = (c.resolve [s]).1.isNone := by
  rw [resolveOne]
  rcases h : c.resolve [s] with ⟨_ | r, d⟩
  · rfl
  · have hnumbers := (resolve_some h).2.2
    cases hr : r.numbers with
    | nil =>
      rw [hr] at hnumbers
      cases hnumbers
    | cons n ns => simp [hr]

theorem counts_act (c : Numbering) (a : Action) :
    (c.act a).generation = c.generation + a.isClear.toNat + (c.refuses a).toNat ∧
      (c.act a).overflows = c.overflows + (c.refuses a).toNat := by
  cases a with
  | resolve ss => exact c.counts_resolve ss
  | resolveOne s =>
    rw [refuses, isNone_resolveOne]
    exact c.counts_resolve [s]
  | setLimit limit => exact ⟨rfl, rfl⟩
  | clear => exact ⟨rfl, rfl⟩

theorem counts_run (c : Numbering) (as : List Action) :
    (c.run as).generation = c.generation + as.countP Action.isClear + c.refusals as ∧
      (c.run as).overflows = c.overflows + c.refusals as := by
  induction as generalizing c with
  | nil => exact ⟨rfl, rfl⟩
  | cons a as ih =>
    obtain ⟨hgeneration, hoverflows⟩ := c.counts_act a
    obtain ⟨hgenerations, hoverflowsAll⟩ := ih (c.act a)
    have hclear : (a :: as).countP Action.isClear = as.countP Action.isClear + a.isClear.toNat := by
      rw [List.countP_cons]
      cases a.isClear <;> rfl
    have hrun : c.run (a :: as) = (c.act a).run as := rfl
    rw [hrun, hgenerations, hoverflowsAll, hgeneration, hoverflows, hclear, refusals]
    omega

/-! ### The limit at the latest assignment -/

/-- A number given to a shape that had none, and the limit then in force. -/
structure Assignment where
  shape : Shape
  number : Nat
  limit : Nat

/-- The assignment that asking for the number of a shape makes, if it makes one. -/
def assignment? (c : Numbering) (s : Shape) : Option Assignment :=
  match c.numberOf? s with
  | some _ => none
  | none => (c.assign s).1.map fun n => ⟨s, n, c.limit⟩

/-- The assignments made for a list of shapes, the latest first. -/
def assignmentsFor : Numbering → List Shape → List Assignment
  | _, [] => []
  | c, s :: ss =>
    match c.assign s with
    | (none, _) => []
    | (some _, d) => assignmentsFor d ss ++ (c.assignment? s).toList

/-- The shapes that an action asks the numbers of. -/
def Action.shapes : Action → List Shape
  | .resolve ss => ss
  | .resolveOne s => [s]
  | _ => []

/-- The assignments of a run, the latest first. -/
def assignments : Numbering → List Action → List Assignment
  | _, [] => []
  | c, a :: as => assignments (c.act a) as ++ c.assignmentsFor a.shapes

/-- The limit in force at the latest assignment; nothing before the first. -/
def lastLimit (made : List Assignment) : Nat := (made.head?.map Assignment.limit).getD 0

/-- A table, at its price per shape, within the limit of the latest assignment. -/
structure Bounded (c : Numbering) (shapeBytes : Nat) (made : List Assignment) : Prop where
  price : c.shapeBytes = shapeBytes
  limit_lt : c.limit < maxWord
  within : c.bytes ≤ lastLimit made

/-- Below the largest word the product that is compared with the limit is exact. -/
theorem bytes_push_le {c : Numbering} (hroom : c.hasRoom = true) (hlimit : c.limit < maxWord)
    (s : Shape) : (c.push s).bytes ≤ c.limit := by
  rw [hasRoom, decide_eq_true_iff] at hroom
  show (c.size + 1) * c.shapeBytes ≤ c.limit
  omega

section Bounds

variable {c : Numbering} {shapeBytes : Nat} {made : List Assignment}

theorem Bounded.clear (hc : Bounded c shapeBytes made) : Bounded c.clear shapeBytes made := by
  refine ⟨hc.price, hc.limit_lt, ?_⟩
  rw [bytes, size_clear, Nat.zero_mul]
  exact Nat.zero_le _

theorem Bounded.assign (hc : Bounded c shapeBytes made) (s : Shape) :
    Bounded (c.assign s).2 shapeBytes ((c.assignment? s).toList ++ made) := by
  rcases c.assign_cases s with ⟨n, hs, h⟩ | ⟨hs, hroom, h⟩ | ⟨hs, _, h⟩
  · simp only [assignment?, hs, h]
    exact hc
  · simp only [assignment?, hs, h]
    exact ⟨hc.price, hc.limit_lt, bytes_push_le hroom hc.limit_lt s⟩
  · simp only [assignment?, hs, h]
    exact hc.clear

theorem Bounded.assignAll (hc : Bounded c shapeBytes made) (ss : List Shape) :
    Bounded (c.assignAll ss).2 shapeBytes (c.assignmentsFor ss ++ made) := by
  induction ss generalizing c made with
  | nil => exact hc
  | cons s ss ih =>
    have hfirst := hc.assign s
    rcases h : c.assign s with ⟨_ | n, d⟩
    · rw [assignAll_cons_none h, assignmentsFor, h, assign_none h]
      exact hc.clear
    · rw [h] at hfirst
      rw [assignAll_cons_some h, assignmentsFor, h, List.append_assoc]
      exact ih hfirst

theorem Bounded.resolve (hc : Bounded c shapeBytes made) (ss : List Shape) :
    Bounded (c.resolve ss).2 shapeBytes (c.assignmentsFor ss ++ made) := by
  have hall := hc.assignAll ss
  rw [Numbering.resolve]
  rcases h : c.assignAll ss with ⟨_ | ns, d⟩ <;> rw [h] at hall
  · exact ⟨hall.price, hall.limit_lt, hall.within⟩
  · exact hall

theorem Bounded.act (hc : Bounded c shapeBytes made) {a : Action}
    (hset : ∀ limit, a = .setLimit limit → limit < maxWord) :
    Bounded (c.act a) shapeBytes (c.assignmentsFor a.shapes ++ made) := by
  cases a with
  | resolve ss => exact hc.resolve ss
  | resolveOne s => exact hc.resolve [s]
  | setLimit limit => exact ⟨hc.price, hset limit rfl, hc.within⟩
  | clear => exact hc.clear

theorem Bounded.run (hc : Bounded c shapeBytes made) {as : List Action}
    (hset : ∀ limit, Action.setLimit limit ∈ as → limit < maxWord) :
    Bounded (c.run as) shapeBytes (c.assignments as ++ made) := by
  induction as generalizing c made with
  | nil => exact hc
  | cons a as ih =>
    rw [assignments, List.append_assoc]
    apply ih
    · exact hc.act fun limit ha => hset limit (ha ▸ List.mem_cons_self ..)
    · exact fun limit ha => hset limit (List.mem_cons_of_mem _ ha)

end Bounds

/-! ### Runs -/

/-- In every table that a run leads to a shape has a number exactly if the number stands for the shape, no
shape has two numbers, the numbers in use are those below their count, every clear and every overflow
has begun a generation, every resolution that gave nothing has been counted, and the bytes of the table
are within the limit in force at the latest assignment. -/
theorem consistency (limit shapeBytes : Nat) (actions : List Action) (hlimit : limit < maxWord)
    (hset : ∀ l, Action.setLimit l ∈ actions → l < maxWord) :
    let c := (empty limit shapeBytes).run actions
    (∀ s n, c.numberOf? s = some n ↔ c.shapeOf? n = some s) ∧
      (∀ e ∈ c.entries, ∀ f ∈ c.entries, e.1 = f.1 ↔ e.2 = f.2) ∧
      (∀ n, (c.shapeOf? n).isSome = true ↔ n < c.size) ∧
      c.next = c.size ∧
      c.generation = actions.countP Action.isClear + (empty limit shapeBytes).refusals actions ∧
      c.overflows = (empty limit shapeBytes).refusals actions ∧
      c.size * shapeBytes ≤ lastLimit ((empty limit shapeBytes).assignments actions) := by
  intro c
  have hc : c.Sound := (sound_empty limit shapeBytes).run actions
  have hbounded : Bounded c shapeBytes ((empty limit shapeBytes).assignments actions) := by
    have h : Bounded (empty limit shapeBytes) shapeBytes [] := ⟨rfl, hlimit, by simp [bytes, size, empty]⟩
    have hrun := h.run hset
    rw [List.append_nil] at hrun
    exact hrun
  obtain ⟨hgeneration, hoverflows⟩ := (empty limit shapeBytes).counts_run actions
  refine ⟨?_, ?_, hc.isSome_shapeOf?_iff, hc.next_eq_size, ?_, ?_, ?_⟩
  · intro s n
    rw [hc.numberOf?_eq_some_iff, hc.shapeOf?_eq_some_iff]
  · intro e he f hf
    constructor
    · intro hshape
      rw [List.inj_on_of_nodup_map hc.distinct he hf hshape]
    · intro hnumber
      rw [List.inj_on_of_nodup_map hc.nodup_numbers he hf hnumber]
  · rw [hgeneration]
    show 0 + _ + _ = _
    rw [Nat.zero_add]
  · rw [hoverflows]
    exact Nat.zero_add _
  · have hwithin := hbounded.within
    rw [bytes, hbounded.price] at hwithin
    exact hwithin

/- Of the three shapes of the second list the first is known, the second fits and the third does not.
The table that is built anew after the clear stays as it is when the limit falls below its size. -/
theorem consistency_below_lowered_limit :
    let a : Shape := .node .scan "1:1:orders" []
    let b : Shape := .node .filter "$0" [a]
    let y : Shape := .node .union "ALL" [a, b]
    let z : Shape := .node .union "ALL" [b, a]
    let actions : List Action :=
      [.resolve [b, a], .resolve [a, y, z], .resolveOne z, .clear, .setLimit 40, .resolve [y, a],
        .setLimit 16, .resolveOne a]
    let start := empty 48 16
    let c := start.run actions
    (48 < maxWord ∧ ∀ l, Action.setLimit l ∈ actions → l < maxWord) ∧
      ((c.size, c.generation, c.overflows, c.limit) = (2, 2, 1, 16) ∧
        lastLimit (start.assignments actions) = 40) ∧
      (∀ s n, c.numberOf? s = some n ↔ c.shapeOf? n = some s) ∧
      c.generation = actions.countP Action.isClear + start.refusals actions ∧
      c.size * 16 ≤ lastLimit (start.assignments actions) := by
  intro a b y z actions start c
  have hvalues : (c.size, c.generation, c.overflows, c.limit) = (2, 2, 1, 16) ∧
      lastLimit (start.assignments actions) = 40 := by decide +kernel +revert
  have hlimit : 48 < maxWord := by decide
  have hset : ∀ l, Action.setLimit l ∈ actions → l < maxWord := by
    intro l hl
    have hcases : l = 40 ∨ l = 16 := by simpa [actions] using hl
    rcases hcases with rfl | rfl <;> decide
  obtain ⟨hinverse, _, _, _, hgeneration, _, hbytes⟩ := consistency 48 16 actions hlimit hset
  exact ⟨⟨hlimit, hset⟩, hvalues, hinverse, hgeneration, hbytes⟩

end PlanReuse.Numbering
