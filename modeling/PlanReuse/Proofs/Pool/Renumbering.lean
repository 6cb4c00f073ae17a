import Mathlib.Order.Monotone.Basic
import PlanReuse.Proofs.Pool.Contents

/-!
# Partitions at other places

The places in the order of insertions are given out across a whole pool. To a partition they say no more
than the order of its entries does: of two artifacts used equally often the one that stands further to
the front is evicted. A partition therefore behaves as before when its places are changed without
changing their order, and even when they are all made one.
-/

namespace PlanReuse

variable {α : Type} {f : Nat → Nat}

/-- A record at another place. -/
def Usage.renumber (f : Nat → Nat) (u : Usage) : Usage := { u with seq := f u.seq }

/-- A record apart from its place. -/
def Usage.unplaced (u : Usage) : Usage := { u with seq := 0 }

def Entry.renumber (f : Nat → Nat) (e : Entry α) : Entry α := { e with usage := e.usage.renumber f }

def Entry.unplaced (e : Entry α) : Entry α := { e with usage := e.usage.unplaced }

namespace Entry

@[simp] theorem usage_renumber (f : Nat → Nat) (e : Entry α) :
    (e.renumber f).usage = e.usage.renumber f := rfl

end Entry

namespace Usage

@[simp] theorem key_renumber (f : Nat → Nat) (u : Usage) : (u.renumber f).key = u.key := rfl

@[simp] theorem size_renumber (f : Nat → Nat) (u : Usage) : (u.renumber f).size = u.size := rfl

@[simp] theorem touch_renumber (f : Nat → Nat) (u : Usage) :
    (u.renumber f).touch = u.touch.renumber f := rfl

/-- A record that is not the earlier one goes out first only by its uses. -/
theorem before_of_seq_le {u v : Usage} (h : v.seq ≤ u.seq) :
    u.before v = decide (u.uses < v.uses) := by
  have hseq : ¬ u.seq < v.seq := Nat.not_lt.mpr h
  simp [before, hseq]

theorem before_renumber (hf : Monotone f) {u v : Usage} (h : v.seq ≤ u.seq) :
    (u.renumber f).before (v.renumber f) = u.before v := by
  rw [before_of_seq_le h]
  exact before_of_seq_le (hf h)

end Usage

namespace Partition

def renumber (f : Nat → Nat) (q : Partition α) : Partition α :=
  ⟨q.entries.map (Entry.renumber f), q.occupied⟩

def unplaced (q : Partition α) : Partition α := ⟨q.entries.map Entry.unplaced, q.occupied⟩

@[simp] theorem entries_renumber (f : Nat → Nat) (q : Partition α) :
    (q.renumber f).entries = q.entries.map (Entry.renumber f) := rfl

/-! ### Looking up and one entry more or less -/

theorem find?_renumber (f : Nat → Nat) (q : Partition α) (key : ArtifactKey) :
    (q.renumber f).find? key = (q.find? key).map (Entry.renumber f) := by
  rw [find?, entries_renumber, List.find?_map]
  rfl

theorem holds_renumber (f : Nat → Nat) (q : Partition α) (key : ArtifactKey) :
    (q.renumber f).holds key = q.holds key := by
  rw [holds, find?_renumber, Option.isSome_map, holds]

theorem push_renumber (f : Nat → Nat) (q : Partition α) (e : Entry α) :
    (q.renumber f).push (e.renumber f) = (q.push e).renumber f := by
  simp [push, renumber]

theorem take?_renumber (f : Nat → Nat) (q : Partition α) (key : ArtifactKey) :
    (q.renumber f).take? key = (q.take? key).map fun (e, r) => (e.renumber f, r.renumber f) := by
  rw [take?, take?, find?_renumber, Option.map_map, Option.map_map, entries_renumber, List.eraseP_map]
  rfl

theorem touch_renumber (f : Nat → Nat) (q : Partition α) (key : ArtifactKey) :
    (q.renumber f).touch key = (q.touch key).renumber f := by
  simp only [touch, renumber, List.map_map, mk.injEq, and_true]
  apply List.map_congr_left
  intro e _
  by_cases h : e.usage.key = key <;> simp [Entry.renumber, h]

/-- A use of a key that is not in use is none. -/
theorem touch_eq_self {q : Partition α} {key : ArtifactKey} (h : q.holds key = false) :
    q.touch key = q := by
  have hentries : (q.touch key).entries = q.entries := by
    rw [touch]
    refine (List.map_congr_left ?_).trans q.entries.map_id
    intro e he
    rw [if_neg (key_ne_of_holds h he), id]
  exact congrArg (Partition.mk · q.occupied) hentries

/-! ### Eviction -/

/-- Among entries in the order of their insertion the same one goes out first. -/
theorem firstOut?_renumber (hf : Monotone f) {es : List (Entry α)}
    (hes : (es.map fun e => e.usage.seq).Pairwise (· < ·)) :
    firstOut? (es.map (Entry.renumber f)) = (firstOut? es).map (Entry.renumber f) := by
  induction es with
  | nil => rfl
  | cons e es ih =>
    rw [List.map_cons, List.pairwise_cons] at hes
    obtain ⟨hfirst, hes⟩ := hes
    simp only [List.map_cons, firstOut?, ih hes]
    cases hout : firstOut? es with
    | none => rfl
    | some g =>
      have hlt : e.usage.seq < g.usage.seq :=
        hfirst g.usage.seq (List.mem_map_of_mem (mem_of_firstOut? hout))
      simp only [Option.map_some, Entry.usage_renumber, Usage.before_renumber hf (Nat.le_of_lt hlt)]
      split <;> rfl

end Partition

def Eviction.renumber (f : Nat → Nat) (r : Eviction α) : Eviction α :=
  ⟨r.made, r.evicted.map (Entry.renumber f), r.rest.renumber f⟩

namespace Partition

theorem fits_renumber (f : Nat → Nat) (q : Partition α) (needed limit : Nat) :
    (q.renumber f).fits needed limit = q.fits needed limit := rfl

theorem makeRoomUpTo_renumber (hf : Monotone f) (needed limit n : Nat) {q : Partition α}
    (hq : q.Sound) :
    makeRoomUpTo needed limit n (q.renumber f) = (makeRoomUpTo needed limit n q).renumber f := by
  induction n generalizing q with
  | zero => rfl
  | succ n ih =>
    simp only [makeRoomUpTo, fits_renumber, entries_renumber, firstOut?_renumber hf hq.order]
    by_cases hfits : q.fits needed limit = true
    · simp only [hfits, if_true]
      rfl
    · simp only [hfits]
      cases hfirst : firstOut? q.entries with
      | none => rfl
      | some e =>
        simp only [Option.map_some, Entry.usage_renumber, Usage.key_renumber, take?_renumber]
        cases htaken : q.take? e.usage.key with
        | none => rfl
        | some taken =>
          obtain ⟨g, r⟩ := taken
          simp only [Option.map_some, ih (hq.take? htaken)]
          rfl

theorem makeRoom_renumber (hf : Monotone f) {q : Partition α} (hq : q.Sound) (needed limit : Nat) :
    (q.renumber f).makeRoom needed limit = (q.makeRoom needed limit).renumber f := by
  rw [makeRoom, entries_renumber, List.length_map]
  exact makeRoomUpTo_renumber hf needed limit q.entries.length hq

end Partition

end PlanReuse
