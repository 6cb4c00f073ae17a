import Mathlib.Algebra.GroupWithZero.Nat
import PlanReuse.Pool.Partition
import PlanReuse.Proofs.Lookup

/-!
# What a partition holds

Apart from an insertion every change of a partition only takes entries away or counts a use. The entries
keep their order and the bytes in use stay the sum of their sizes.
-/

namespace PlanReuse

variable {α : Type}

/-- What no use of an entry changes. -/
def Entry.base (e : Entry α) : α × Usage := (e.item, { e.usage with uses := 0 })

/-- Entries that differ in their uses at most. -/
structure Entry.Alike (e f : Entry α) : Prop where
  item : e.item = f.item
  key : e.usage.key = f.usage.key
  artifactClass : e.usage.artifactClass = f.usage.artifactClass
  device : e.usage.device = f.usage.device
  size : e.usage.size = f.usage.size
  seq : e.usage.seq = f.usage.seq

theorem Entry.alike_of_base_eq {e f : Entry α} (h : e.base = f.base) : e.Alike f := by
  obtain ⟨hitem, husage⟩ := Prod.mk.inj h
  simp only [Usage.mk.injEq] at husage
  obtain ⟨hkey, hclass, hdevice, hsize, hseq, _⟩ := husage
  exact ⟨hitem, hkey, hclass, hdevice, hsize, hseq⟩

theorem Entry.Alike.refl (e : Entry α) : e.Alike e := ⟨rfl, rfl, rfl, rfl, rfl, rfl⟩

theorem Entry.Alike.trans {e f g : Entry α} (hef : e.Alike f) (hfg : f.Alike g) : e.Alike g :=
  ⟨hef.item.trans hfg.item, hef.key.trans hfg.key, hef.artifactClass.trans hfg.artifactClass,
    hef.device.trans hfg.device, hef.size.trans hfg.size, hef.seq.trans hfg.seq⟩

namespace Partition

/-! ### Well-formed partitions -/

/-- The bytes in use are those of the entries, no key is in use twice, and the entries stand in the
order of their insertion. -/
structure Sound (q : Partition α) : Prop where
  occupied : q.occupied = (q.entries.map fun e => e.usage.size).sum
  keys : (q.entries.map fun e => e.usage.key).Nodup
  order : (q.entries.map fun e => e.usage.seq).Pairwise (· < ·)

theorem sound_empty : (empty : Partition α).Sound := by
  constructor
  · rfl
  · exact List.nodup_nil
  · exact List.Pairwise.nil

theorem mem_of_find? {q : Partition α} {key : ArtifactKey} {e : Entry α}
    (h : q.find? key = some e) : e ∈ q.entries ∧ e.usage.key = key := by
  refine ⟨List.mem_of_find?_eq_some h, ?_⟩
  simpa using List.find?_some h

theorem key_ne_of_holds {q : Partition α} {key : ArtifactKey} (h : q.holds key = false)
    {e : Entry α} (he : e ∈ q.entries) : e.usage.key ≠ key := by
  have hnone : q.find? key = none := by simpa [holds] using h
  have hne := List.find?_eq_none.mp hnone e he
  simpa using hne

/-- A key stands for the one entry that carries it. -/
theorem Sound.find?_eq_some_iff {q : Partition α} (hq : q.Sound) {key : ArtifactKey} {e : Entry α} :
    q.find? key = some e ↔ e ∈ q.entries ∧ e.usage.key = key :=
  find?_eq_some_iff_of_nodup hq.keys

theorem Sound.push {q : Partition α} (hq : q.Sound) {e : Entry α}
    (hkey : q.holds e.usage.key = false) (hseq : ∀ f ∈ q.entries, f.usage.seq < e.usage.seq) :
    (q.push e).Sound := by
  constructor
  · rw [occupied_push, entries_push, List.map_append, List.sum_append, hq.occupied]
    rfl
  · rw [entries_push, List.map_append, List.nodup_append]
    refine ⟨hq.keys, List.nodup_singleton _, ?_⟩
    intro k hk l hl
    obtain ⟨f, hf, rfl⟩ := List.mem_map.mp hk
    obtain rfl := List.mem_singleton.mp hl
    exact key_ne_of_holds hkey hf
  · rw [entries_push, List.map_append, List.pairwise_append]
    refine ⟨hq.order, List.pairwise_singleton _ _, ?_⟩
    intro m hm n hn
    obtain ⟨f, hf, rfl⟩ := List.mem_map.mp hm
    obtain rfl := List.mem_singleton.mp hn
    exact hseq f hf

/-! ### Shrinking -/

/-- What a partition may become without an insertion. -/
structure Shrinks (q r : Partition α) : Prop where
  kept : (r.entries.map Entry.base).Sublist (q.entries.map Entry.base)
  occupied : r.occupied ≤ q.occupied
  sound : q.Sound → r.Sound

namespace Shrinks

theorem refl (q : Partition α) : Shrinks q q := ⟨List.Sublist.refl _, Nat.le_refl _, id⟩

theorem trans {q r s : Partition α} (hqr : Shrinks q r) (hrs : Shrinks r s) : Shrinks q s := by
  constructor
  · exact hrs.kept.trans hqr.kept
  · exact Nat.le_trans hrs.occupied hqr.occupied
  · exact fun hq => hrs.sound (hqr.sound hq)

/-- Whatever is left was there before. -/
theorem exists_alike {q r : Partition α} (h : Shrinks q r) {e : Entry α} (he : e ∈ r.entries) :
    ∃ f ∈ q.entries, f.Alike e := by
  obtain ⟨f, hf, hbase⟩ := List.mem_map.mp (h.kept.subset (List.mem_map_of_mem he))
  exact ⟨f, hf, Entry.alike_of_base_eq hbase⟩

/-- A key that is not in use is not brought into use by taking entries away. -/
theorem holds_eq_false {q r : Partition α} (h : Shrinks q r) {key : ArtifactKey}
    (hq : q.holds key = false) : r.holds key = false := by
  rw [holds, Option.isSome_eq_false_iff, Option.isNone_iff_eq_none, find?, List.find?_eq_none]
  intro e he
  obtain ⟨f, hf, hfe⟩ := h.exists_alike he
  simpa [hfe.key] using key_ne_of_holds hq hf

end Shrinks

theorem shrinks_empty (q : Partition α) : Shrinks q empty :=
  ⟨List.nil_sublist _, Nat.zero_le _, fun _ => sound_empty⟩

theorem take?_eq_some {q r : Partition α} {key : ArtifactKey} {e : Entry α}
    (h : q.take? key = some (e, r)) :
    e.usage.key = key ∧ ∃ front back, q.entries = front ++ e :: back ∧
      r = ⟨front ++ back, q.occupied - e.usage.size⟩ := by
  obtain ⟨f, hf, hr⟩ := Option.map_eq_some_iff.mp h
  obtain ⟨rfl, rfl⟩ := Prod.mk.inj hr
  obtain ⟨hkey, front, back, hsplit, hfront⟩ := List.find?_eq_some_iff_append.mp hf
  refine ⟨by simpa using hkey, front, back, hsplit, ?_⟩
  have hskip : ∀ g ∈ front, ¬ decide (g.usage.key = key) = true := by
    intro g hg
    simpa using hfront g hg
  rw [hsplit, List.eraseP_append_right _ hskip, List.eraseP_cons_of_pos (by exact hkey)]

theorem perm_of_take? {q r : Partition α} {key : ArtifactKey} {e : Entry α}
    (h : q.take? key = some (e, r)) : (e :: r.entries).Perm q.entries := by
  obtain ⟨_, front, back, hsplit, rfl⟩ := take?_eq_some h
  rw [hsplit]
  exact List.perm_middle.symm

theorem Sound.take? {q r : Partition α} (hq : q.Sound) {key : ArtifactKey} {e : Entry α}
    (h : q.take? key = some (e, r)) : r.Sound := by
  obtain ⟨_, front, back, hsplit, rfl⟩ := take?_eq_some h
  have hsub : (front ++ back).Sublist q.entries := by
    rw [hsplit]
    exact (List.sublist_cons_self e back).append_left front
  constructor
  · have hsum := hq.occupied
    simp only [hsplit, List.map_append, List.map_cons, List.sum_append, List.sum_cons] at hsum ⊢
    omega
  · exact (hsub.map _).nodup hq.keys
  · exact hq.order.sublist (hsub.map _)

theorem shrinks_take? {q r : Partition α} {key : ArtifactKey} {e : Entry α}
    (h : q.take? key = some (e, r)) : Shrinks q r := by
  refine ⟨?_, ?_, fun hq => hq.take? h⟩
  · obtain ⟨_, front, back, hsplit, rfl⟩ := take?_eq_some h
    rw [hsplit]
    exact ((List.sublist_cons_self e back).append_left front).map _
  · obtain ⟨_, front, back, _, rfl⟩ := take?_eq_some h
    exact Nat.sub_le _ _

/-- A use changes no entry but in its count. -/
theorem map_touch {β : Type} (q : Partition α) (key : ArtifactKey) (f : Entry α → β)
    (hf : ∀ e : Entry α, f { e with usage := e.usage.touch } = f e) :
    (q.touch key).entries.map f = q.entries.map f := by
  rw [touch, List.map_map]
  apply List.map_congr_left
  intro e _
  rw [Function.comp_apply]
  split
  · exact hf e
  · rfl

theorem shrinks_touch (q : Partition α) (key : ArtifactKey) : Shrinks q (q.touch key) := by
  constructor
  · rw [map_touch q key _ fun _ => rfl]
  · exact Nat.le_refl _
  · intro hq
    constructor
    · rw [occupied_touch, map_touch q key _ fun _ => rfl, hq.occupied]
    · rw [map_touch q key _ fun _ => rfl]
      exact hq.keys
    · rw [map_touch q key _ fun _ => rfl]
      exact hq.order

/-! ### Making room -/

theorem mem_of_firstOut? {es : List (Entry α)} {f : Entry α} (h : firstOut? es = some f) : f ∈ es := by
  induction es with
  | nil => cases h
  | cons e es ih =>
    simp only [firstOut?] at h
    split at h
    · cases h
      exact List.mem_cons_self
    · next g hg =>
      split at h
      · cases h
        exact List.mem_cons_of_mem e (ih hg)
      · cases h
        exact List.mem_cons_self

/-- Whatever holds of a partition and is kept when an entry is taken out still holds once room is
made. -/
theorem makeRoomUpTo_rest {P : Partition α → Prop}
    (htake : ∀ {q r : Partition α} {key : ArtifactKey} {e : Entry α},
      q.take? key = some (e, r) → P q → P r)
    (needed limit n : Nat) {q : Partition α} (hq : P q) : P (makeRoomUpTo needed limit n q).rest := by
  induction n generalizing q with
  | zero => exact hq
  | succ n ih =>
    rw [makeRoomUpTo]
    split
    · exact hq
    · split
      · exact hq
      · split
        · exact hq
        · next htaken => exact ih (htake htaken hq)

theorem shrinks_makeRoom (q : Partition α) (needed limit : Nat) :
    Shrinks q (q.makeRoom needed limit).rest :=
  makeRoomUpTo_rest (fun htaken hr => hr.trans (shrinks_take? htaken)) needed limit _ (.refl q)

/-- What is evicted and what stays is all there was. -/
theorem makeRoomUpTo_perm (needed limit n : Nat) (q : Partition α) :
    ((makeRoomUpTo needed limit n q).evicted ++ (makeRoomUpTo needed limit n q).rest.entries).Perm
      q.entries := by
  induction n generalizing q with
  | zero => exact List.Perm.refl _
  | succ n ih =>
    rw [makeRoomUpTo]
    split
    · exact List.Perm.refl _
    · split
      · exact List.Perm.refl _
      · split
        · exact List.Perm.refl _
        · next htaken => exact ((ih _).cons _).trans (perm_of_take? htaken)

/-- If room is made, what is needed fits into what is left. -/
theorem fits_of_makeRoomUpTo {needed limit n : Nat} {q : Partition α}
    (h : (makeRoomUpTo needed limit n q).made = true) :
    (makeRoomUpTo needed limit n q).rest.fits needed limit = true := by
  induction n generalizing q with
  | zero => exact h
  | succ n ih =>
    rw [makeRoomUpTo] at h ⊢
    by_cases hfits : q.fits needed limit = true
    · rw [if_pos hfits]
      exact hfits
    · rw [if_neg hfits] at h ⊢
      cases hfirst : firstOut? q.entries with
      | none => simp [hfirst] at h
      | some e =>
        simp only [hfirst] at h ⊢
        cases htaken : q.take? e.usage.key with
        | none => simp [htaken] at h
        | some taken =>
          simp only [htaken] at h ⊢
          exact ih h

/-- Below the largest word the sum that is compared with a limit is exact. -/
theorem fits_iff {q : Partition α} {needed limit : Nat} (hlimit : limit < maxWord) :
    q.fits needed limit = true ↔ q.occupied + needed ≤ limit := by
  rw [fits, decide_eq_true_iff]
  omega

theorem occupied_add_le_of_makeRoom {q : Partition α} {needed limit : Nat} (hlimit : limit < maxWord)
    (h : (q.makeRoom needed limit).made = true) :
    (q.makeRoom needed limit).rest.occupied + needed ≤ limit :=
  (fits_iff hlimit).mp (fits_of_makeRoomUpTo h)

end Partition

end PlanReuse
