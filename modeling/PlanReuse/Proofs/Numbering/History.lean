import PlanReuse.Numbering.Extraction
import PlanReuse.Proofs.Numbering.Growth
import PlanReuse.Proofs.Text.Boundary

/-!
# The history of a numbering

A run is any list of changes. Numbers start again from zero with every generation, so one text may stand
for many plans in a run; the text and its generation together stand for one list of shapes, whenever in
the run they are met.
-/

namespace PlanReuse.Numbering

/-! ### Runs -/

/-- What can be done with a numbering. -/
inductive Action
  | resolve (shapes : List Shape)
  | resolveOne (shape : Shape)
  | setLimit (limit : Nat)
  | clear

def act (c : Numbering) : Action → Numbering
  | .resolve ss => (c.resolve ss).2
  | .resolveOne s => (c.resolveOne s).2
  | .setLimit limit => c.setLimit limit
  | .clear => c.clear

def run (c : Numbering) (actions : List Action) : Numbering := actions.foldl act c

/-- A list of shapes that has been given numbers, and the table that was asked for them. -/
structure Resolution where
  asked : Numbering
  shapes : List Shape
  numbers : Numbers

def resolution? (c : Numbering) : Action → Option Resolution
  | .resolve ss => (c.resolve ss).1.map fun r => ⟨c, ss, r⟩
  | _ => none

/-- The resolutions of a run that gave numbers, first to last. -/
def resolutions : Numbering → List Action → List Resolution
  | _, [] => []
  | c, a :: as => (c.resolution? a).toList ++ resolutions (c.act a) as

theorem run_append (c : Numbering) (as bs : List Action) : c.run (as ++ bs) = (c.run as).run bs :=
  List.foldl_append

theorem resolutions_append (c : Numbering) (as bs : List Action) :
    c.resolutions (as ++ bs) = c.resolutions as ++ (c.run as).resolutions bs := by
  induction as generalizing c with
  | nil => rfl
  | cons a as ih =>
    rw [List.cons_append, resolutions, resolutions, ih, List.append_assoc]
    rfl

theorem Sound.act {c : Numbering} (hc : c.Sound) (a : Action) : (c.act a).Sound := by
  cases a with
  | resolve ss => exact hc.resolve ss
  | resolveOne s => exact hc.resolve [s]
  | setLimit limit => exact hc.setLimit limit
  | clear => exact c.sound_clear

theorem Sound.run {c : Numbering} (hc : c.Sound) (as : List Action) : (c.run as).Sound := by
  induction as generalizing c with
  | nil => exact hc
  | cons a as ih => exact ih (hc.act a)

theorem precedes_act (c : Numbering) (a : Action) : Precedes c (c.act a) := by
  cases a with
  | resolve ss => exact c.precedes_resolve ss
  | resolveOne s => exact c.precedes_resolve [s]
  | setLimit limit => exact Or.inl ⟨rfl, fun _ _ h => h⟩
  | clear => exact c.precedes_clear

theorem precedes_run (c : Numbering) (as : List Action) : Precedes c (c.run as) := by
  induction as generalizing c with
  | nil => exact Or.inl (Extends.refl c)
  | cons a as ih => exact (c.precedes_act a).trans (ih (c.act a))

theorem generation_le_run (c : Numbering) (as : List Action) :
    c.generation ≤ (c.run as).generation := by
  rcases c.precedes_run as with h | h
  · exact Nat.le_of_eq h.generation.symm
  · exact Nat.le_of_lt h

/-! ### What a resolution leaves in the table -/

/-- A table of the resolution's own generation that answers its shapes with its numbers. -/
structure Resolution.HeldBy (r : Resolution) (d : Numbering) : Prop where
  generation : r.numbers.generation = d.generation
  answers : r.shapes.map d.numberOf? = r.numbers.numbers.map some

theorem Resolution.HeldBy.extends {r : Resolution} {d e : Numbering} (h : r.HeldBy d)
    (hde : Extends d e) : r.HeldBy e := by
  refine ⟨by rw [hde.generation, h.generation], ?_⟩
  have hkeeps : ∀ (ss : List Shape) (ns : List Nat), ss.map d.numberOf? = ns.map some →
      ss.map e.numberOf? = ns.map some := by
    intro ss
    induction ss with
    | nil =>
      intro ns hns
      exact hns
    | cons s ss ih =>
      intro ns hns
      cases ns with
      | nil => cases hns
      | cons n ns =>
        simp only [List.map_cons, List.cons.injEq] at hns ⊢
        exact ⟨hde.keeps s n hns.1, ih ns hns.2⟩
  exact hkeeps _ _ h.answers

/-- Right after a resolution the table holds it, and it is of the generation of the table asked. -/
theorem heldBy_of_resolution? {c : Numbering} {a : Action} {r : Resolution}
    (h : c.resolution? a = some r) :
    r.HeldBy (c.act a) ∧ r.asked.generation = r.numbers.generation := by
  cases a with
  | resolve ss =>
    obtain ⟨ns, hns, hr⟩ := Option.map_eq_some_iff.mp h
    obtain ⟨hcd, hg, hmap⟩ := resolve_some (Prod.ext hns rfl)
    subst hr
    exact ⟨⟨hg, hmap⟩, by rw [hg, hcd.generation]⟩
  | resolveOne s => cases h
  | setLimit limit => cases h
  | clear => cases h

/-- No resolution of a run is of a later generation than the table after the run. -/
theorem generation_le_of_mem {c : Numbering} {as : List Action} {r : Resolution}
    (hr : r ∈ c.resolutions as) : r.numbers.generation ≤ (c.run as).generation := by
  induction as generalizing c with
  | nil => cases hr
  | cons a as ih =>
    rw [resolutions, List.mem_append, Option.mem_toList] at hr
    rcases hr with hr | hr
    · rw [(heldBy_of_resolution? hr).1.generation]
      exact (c.act a).generation_le_run as
    · exact ih hr

/-- Every resolution of a run is held by the table at some moment after it. -/
theorem exists_heldBy {c : Numbering} (hc : c.Sound) {as : List Action} {r : Resolution}
    (hr : r ∈ c.resolutions as) :
    r.asked.generation = r.numbers.generation ∧ ∃ d, d.Sound ∧ Precedes c d ∧ r.HeldBy d := by
  induction as generalizing c with
  | nil => cases hr
  | cons a as ih =>
    rw [resolutions, List.mem_append, Option.mem_toList] at hr
    rcases hr with hr | hr
    · obtain ⟨hheld, hg⟩ := heldBy_of_resolution? hr
      exact ⟨hg, c.act a, hc.act a, c.precedes_act a, hheld⟩
    · obtain ⟨hg, d, hd, hcd, hheld⟩ := ih (hc.act a) hr
      exact ⟨hg, d, hd, (c.precedes_act a).trans hcd, hheld⟩

/- Of two resolutions of one generation the table after the later one holds both: between the two it can
only have grown, since a drop would have begun another generation. -/
theorem exists_heldBy_both {c : Numbering} (hc : c.Sound) {as : List Action} {r s : Resolution}
    (hr : r ∈ c.resolutions as) (hs : s ∈ c.resolutions as)
    (hg : r.numbers.generation = s.numbers.generation) :
    ∃ d, d.Sound ∧ r.HeldBy d ∧ s.HeldBy d := by
  have later : ∀ {d : Numbering} {t u : Resolution} {bs : List Action}, d.Sound → t.HeldBy d →
      u ∈ d.resolutions bs → t.numbers.generation = u.numbers.generation →
      ∃ e, e.Sound ∧ t.HeldBy e ∧ u.HeldBy e := by
    intro d t u bs hd ht hu hgen
    obtain ⟨_, e, he, hde, hue⟩ := exists_heldBy hd hu
    have hsame : e.generation = d.generation := by
      rw [← hue.generation, ← hgen, ht.generation]
    exact ⟨e, he, ht.extends (hde.extends hsame), hue⟩
  induction as generalizing c with
  | nil => cases hr
  | cons a as ih =>
    rw [resolutions, List.mem_append, Option.mem_toList] at hr hs
    rcases hr with hr | hr
    · have hra := (heldBy_of_resolution? hr).1
      rcases hs with hs | hs
      · have he : r = s := Option.some.inj (hr.symm.trans hs)
        subst he
        exact ⟨c.act a, hc.act a, hra, hra⟩
      · exact later (hc.act a) hra hs hg
    · rcases hs with hs | hs
      · obtain ⟨e, he, hse, hre⟩ :=
          later (hc.act a) (heldBy_of_resolution? hs).1 hr hg.symm
        exact ⟨e, he, hre, hse⟩
      · exact ih (hc.act a) hr hs

/-- Within one generation of a run, equal numbers stand for equal shapes. -/
theorem numbers_eq_iff_of_generation {c : Numbering} (hc : c.Sound) {as : List Action}
    {r s : Resolution} (hr : r ∈ c.resolutions as) (hs : s ∈ c.resolutions as)
    (hg : r.numbers.generation = s.numbers.generation) :
    r.numbers.numbers = s.numbers.numbers ↔ r.shapes = s.shapes := by
  obtain ⟨d, hd, hrd, hsd⟩ := exists_heldBy_both hc hr hs hg
  exact hd.numbers_eq_iff hrd.answers hsd.answers

end PlanReuse.Numbering

namespace PlanReuse

/-! ### The text of a plan code -/

theorem PlanCode.render_cons (n : Nat) (ns : List Nat) :
    render (n :: ns) = Decimal.digits n ++ '|' :: render ns := by
  rw [render, List.flatMap_cons, List.append_assoc]
  rfl

theorem PlanCode.render_cons_ne_nil (n : Nat) (ns : List Nat) : render (n :: ns) ≠ [] := by
  rw [render_cons]
  exact List.append_ne_nil_of_right_ne_nil _ (List.cons_ne_nil _ _)

/-- A bar is no digit, so the text of a code can be read back number by number. -/
theorem PlanCode.render_injective {ms ns : List Nat} (h : render ms = render ns) : ms = ns := by
  induction ms generalizing ns with
  | nil =>
    cases ns with
    | nil => rfl
    | cons n ns => exact absurd h.symm (render_cons_ne_nil n ns)
  | cons m ms ih =>
    cases ns with
    | nil => exact absurd h (render_cons_ne_nil m ms)
    | cons n ns =>
      rw [render_cons, render_cons] at h
      have hbar : ∀ s : List Char, Text.Stops Char.isDigit ('|' :: s) := by
        intro s
        rw [Text.stops_cons]
        rfl
      obtain ⟨hmn, hrest⟩ := Decimal.digits_append_inj (hbar _) (hbar _) h
      rw [hmn, ih (List.cons.inj hrest).2]

theorem PlanCode.text_ofNumbers_eq_iff (r s : Numbers) :
    (ofNumbers r).text = (ofNumbers s).text ↔ r.numbers = s.numbers := by
  constructor
  · intro h
    exact render_injective (String.ofList_injective h)
  · intro h
    simp only [ofNumbers, h]

/-- The generation and the text of a code name the shapes it was made for: of any two resolutions of a
run the codes agree in both exactly if one generation answered both and the shapes are the same. -/
theorem PlanCode.eq_iff_shapes_eq (limit shapeBytes : Nat) (actions : List Numbering.Action)
    {r s : Numbering.Resolution} (hr : r ∈ (Numbering.empty limit shapeBytes).resolutions actions)
    (hs : s ∈ (Numbering.empty limit shapeBytes).resolutions actions) :
    ((ofNumbers r.numbers).generation, (ofNumbers r.numbers).text) =
        ((ofNumbers s.numbers).generation, (ofNumbers s.numbers).text) ↔
      r.asked.generation = s.asked.generation ∧ r.shapes = s.shapes := by
  have hempty := Numbering.sound_empty limit shapeBytes
  have hrg := (Numbering.exists_heldBy hempty hr).1
  have hsg := (Numbering.exists_heldBy hempty hs).1
  rw [Prod.mk.injEq, text_ofNumbers_eq_iff, hrg, hsg]
  constructor
  · intro ⟨hg, hnumbers⟩
    exact ⟨hg, (Numbering.numbers_eq_iff_of_generation hempty hr hs hg).mp hnumbers⟩
  · intro ⟨hg, hshapes⟩
    exact ⟨hg, (Numbering.numbers_eq_iff_of_generation hempty hr hs hg).mpr hshapes⟩

/- There is room for one shape. The second does not fit and drops the first, and then gets its number:
the texts of the two codes are the same, and only their generations tell the shapes apart. -/
theorem PlanCode.eq_iff_shapes_eq_after_overflow :
    let table := Numbering.empty 16 16
    let a : Shape := .node .scan "" []
    let b : Shape := .node .sort "" []
    let first : Numbering.Resolution := ⟨table, [a], ⟨[0], 0⟩⟩
    let second : Numbering.Resolution := ⟨{ table.clear with overflows := 1 }, [b], ⟨[0], 1⟩⟩
    let actions : List Numbering.Action := [.resolve [a], .resolve [b], .resolve [b]]
    first ∈ table.resolutions actions ∧ second ∈ table.resolutions actions ∧
      (ofNumbers first.numbers).text = (ofNumbers second.numbers).text ∧
      (((ofNumbers first.numbers).generation, (ofNumbers first.numbers).text) =
          ((ofNumbers second.numbers).generation, (ofNumbers second.numbers).text) ↔
        first.asked.generation = second.asked.generation ∧ first.shapes = second.shapes) := by
  intro table a b first second actions
  have hgiven : table.resolve [a] = (some ⟨[0], 0⟩, table.push a) := rfl
  have hdropped : (table.push a).resolve [b] = (Option.none, { table.clear with overflows := 1 }) := rfl
  have hagain : (Numbering.resolve { table.clear with overflows := 1 } [b]).1 = some ⟨[0], 1⟩ := rfl
  have hrun : table.resolutions actions = [first, second] := by
    simp only [actions, Numbering.resolutions, Numbering.resolution?, Numbering.act, hgiven,
      hdropped, hagain]
    rfl
  have hfirst : first ∈ table.resolutions actions := by
    rw [hrun]
    exact List.mem_cons_self ..
  have hsecond : second ∈ table.resolutions actions := by
    rw [hrun]
    exact List.mem_cons_of_mem _ (List.mem_cons_self ..)
  exact ⟨hfirst, hsecond, rfl, eq_iff_shapes_eq 16 16 actions hfirst hsecond⟩

end PlanReuse
