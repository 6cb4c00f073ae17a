import PlanReuse.Proofs.Pool.Contents

/-!
# The order of eviction

Records inserted at different places are in a strict order, so the entries of a partition stand in one
order of eviction, in whatever order they are kept. Making room takes out the shortest beginning of it
that makes enough room.
-/

namespace PlanReuse

variable {α : Type}

/-! ### The order -/

namespace Usage

theorem before_iff (u v : Usage) :
    u.before v = true ↔ u.uses < v.uses ∨ (u.uses = v.uses ∧ u.seq < v.seq) := by
  simp [before]

theorem before_eq_false_iff (u v : Usage) :
    u.before v = false ↔ v.uses < u.uses ∨ (v.uses = u.uses ∧ v.seq ≤ u.seq) := by
  rw [← Bool.not_eq_true, before_iff]
  omega

theorem before_of_not_before {u v : Usage} (hseq : u.seq ≠ v.seq) (h : v.before u = false) :
    u.before v = true := by
  rw [before_eq_false_iff] at h
  rw [before_iff]
  omega

end Usage

namespace Partition

/-- The entries in the order of eviction. -/
def ranked (q : Partition α) : List (Entry α) :=
  q.entries.mergeSort fun e f => !f.usage.before e.usage

theorem ranked_perm (q : Partition α) : q.ranked.Perm q.entries := List.mergeSort_perm _ _

theorem Sound.seq_ne {q : Partition α} (hq : q.Sound) {l : List (Entry α)} (hl : l.Perm q.entries) :
    l.Pairwise fun e f => e.usage.seq ≠ f.usage.seq := by
  have hnodup : (l.map fun e => e.usage.seq).Nodup :=
    (hl.map _).nodup_iff.mpr (hq.order.imp Nat.ne_of_lt)
  exact List.pairwise_map.mp hnodup

theorem Sound.ranked_pairwise {q : Partition α} (hq : q.Sound) :
    q.ranked.Pairwise fun e f => e.usage.before f.usage = true := by
  have hsorted : q.ranked.Pairwise fun e f => (!f.usage.before e.usage) = true := by
    apply List.pairwise_mergeSort
    · intro e f g hef hfg
      simp only [Bool.not_eq_true', Usage.before_eq_false_iff] at hef hfg ⊢
      omega
    · intro e f
      simp only [Bool.or_eq_true, Bool.not_eq_true', Usage.before_eq_false_iff]
      omega
  refine (hsorted.and (hq.seq_ne q.ranked_perm)).imp ?_
  rintro e f ⟨hnot, hseq⟩
  exact Usage.before_of_not_before hseq (by simpa using hnot)

/-- There is one order of eviction. -/
theorem Sound.eq_ranked {q : Partition α} (hq : q.Sound) {l : List (Entry α)} (hl : l.Perm q.entries)
    (hsorted : l.Pairwise fun e f => e.usage.before f.usage = true) : l = q.ranked := by
  refine List.Perm.eq_of_pairwise ?_ hsorted hq.ranked_pairwise (hl.trans q.ranked_perm.symm)
  intro e f _ _ hef hfe
  rw [Usage.before_iff] at hef hfe
  omega

/-! ### One eviction -/

/-- An entry that no other goes before. -/
def IsFirstOut (q : Partition α) (e : Entry α) : Prop :=
  e ∈ q.entries ∧ ∀ f ∈ q.entries, f.usage.before e.usage = false

theorem isFirstOut_of_firstOut? {q : Partition α} {e : Entry α} (h : firstOut? q.entries = some e) :
    q.IsFirstOut e := by
  refine ⟨mem_of_firstOut? h, ?_⟩
  generalize q.entries = es at h
  induction es generalizing e with
  | nil => cases h
  | cons f es ih =>
    have hself (u : Usage) : u.before u = false := by
      rw [Usage.before_eq_false_iff]
      omega
    simp only [firstOut?] at h
    cases hrest : firstOut? es with
    | none =>
      obtain rfl := (firstOut?_eq_none_iff es).mp hrest
      rw [hrest, Option.some.injEq] at h
      subst h
      simpa using hself f.usage
    | some g =>
      have hleast := ih hrest
      simp only [hrest] at h
      cases hfirst : g.usage.before f.usage with
      | true =>
        rw [hfirst, if_pos rfl, Option.some.injEq] at h
        subst h
        refine List.forall_mem_cons.mpr ⟨?_, hleast⟩
        rw [Usage.before_iff] at hfirst
        rw [Usage.before_eq_false_iff]
        omega
      | false =>
        rw [hfirst, if_neg Bool.false_ne_true, Option.some.injEq] at h
        subst h
        refine List.forall_mem_cons.mpr ⟨hself f.usage, ?_⟩
        intro e he
        have hge := hleast e he
        rw [Usage.before_eq_false_iff] at hfirst hge ⊢
        omega

/-- Only one entry goes before all others. -/
theorem Sound.eq_of_isFirstOut {q : Partition α} (hq : q.Sound) {e f : Entry α} (he : q.IsFirstOut e)
    (hf : q.IsFirstOut f) : e = f := by
  have hef := he.2 f hf.1
  have hfe := hf.2 e he.1
  rw [Usage.before_eq_false_iff] at hef hfe
  exact List.inj_on_of_nodup_map (hq.order.imp Nat.ne_of_lt) he.1 hf.1 (by omega)

theorem Sound.firstOut?_eq_some {q : Partition α} (hq : q.Sound) {e : Entry α} (he : q.IsFirstOut e) :
    firstOut? q.entries = some e := by
  cases hfirst : firstOut? q.entries with
  | none =>
    have hmem := he.1
    rw [(firstOut?_eq_none_iff _).mp hfirst] at hmem
    cases hmem
  | some f => rw [hq.eq_of_isFirstOut he (isFirstOut_of_firstOut? hfirst)]

/-- An entry is taken out under its own key, and the others stay. -/
theorem Sound.exists_take? {q : Partition α} (hq : q.Sound) {e : Entry α} (he : e ∈ q.entries) :
    ∃ r, q.take? e.usage.key = some (e, r) := by
  have hfind := hq.find?_eq_some_iff.mpr ⟨he, rfl⟩
  rw [Partition.take?, hfind]
  exact ⟨_, rfl⟩

theorem Sound.eq_of_take? {q r : Partition α} (hq : q.Sound) {e f : Entry α} (he : e ∈ q.entries)
    (h : q.take? e.usage.key = some (f, r)) : f = e := by
  obtain ⟨s, hs⟩ := hq.exists_take? he
  rw [hs, Option.some.injEq, Prod.mk.injEq] at h
  exact h.1.symm

/-- Once the first entry in the order of eviction is out, the others stand in their order. -/
theorem Sound.ranked_eq_cons {q r : Partition α} (hq : q.Sound) {e : Entry α} (he : q.IsFirstOut e)
    (h : q.take? e.usage.key = some (e, r)) : q.ranked = e :: r.ranked := by
  have hr : r.Sound := hq.take? h
  have hperm : (e :: r.ranked).Perm q.entries := (r.ranked_perm.cons e).trans (perm_of_take? h)
  refine (hq.eq_ranked hperm (List.pairwise_cons.mpr ⟨?_, hr.ranked_pairwise⟩)).symm
  intro f hf
  have hseq := (List.pairwise_cons.mp (hq.seq_ne hperm)).1 f hf
  exact Usage.before_of_not_before hseq (he.2 f (hperm.subset (List.mem_cons_of_mem e hf)))

/-! ### Making room -/

/-- The bytes in use once the first entries in the order of eviction are out. -/
def occupiedWithout (q : Partition α) (n : Nat) : Nat :=
  q.occupied - ((q.ranked.take n).map fun e => e.usage.size).sum

/-- What an eviction must do: of the order of eviction the shortest beginning that makes enough room
leaves, and all others stay as they are. -/
structure Evicts (q : Partition α) (needed limit : Nat) (out : List (Entry α)) (r : Partition α) :
    Prop where
  shortest : ∃ n, out = q.ranked.take n ∧ q.occupiedWithout n + needed ≤ limit ∧
    ∀ m, m < n → limit < q.occupiedWithout m + needed
  stay : r.entries.Sublist q.entries
  all : (out ++ r.entries).Perm q.entries
  occupied : r.occupied = (r.entries.map fun e => e.usage.size).sum

theorem Sound.evicts_nil {q : Partition α} (hq : q.Sound) {needed limit : Nat}
    (h : q.occupied + needed ≤ limit) : q.Evicts needed limit [] q := by
  refine ⟨⟨0, rfl, h, fun m hm => ?_⟩, List.Sublist.refl _, List.Perm.refl _, hq.occupied⟩
  exact absurd hm (Nat.not_lt_zero m)

theorem Sound.evicts_cons {q r s : Partition α} (hq : q.Sound) {needed limit : Nat} {e : Entry α}
    {out : List (Entry α)} (hfull : limit < q.occupied + needed) (he : q.IsFirstOut e)
    (htaken : q.take? e.usage.key = some (e, r)) (h : r.Evicts needed limit out s) :
    q.Evicts needed limit (e :: out) s := by
  have hranked := hq.ranked_eq_cons he htaken
  obtain ⟨_, front, back, hsplit, hr⟩ := take?_eq_some htaken
  have hwithout (n : Nat) : q.occupiedWithout (n + 1) = r.occupiedWithout n := by
    rw [occupiedWithout, occupiedWithout, hranked, List.take_succ_cons, List.map_cons, List.sum_cons,
      hr, Nat.sub_sub]
  obtain ⟨n, rfl, hroom, hshortest⟩ := h.shortest
  refine ⟨⟨n + 1, ?_, ?_, ?_⟩, ?_, ?_, h.occupied⟩
  · rw [hranked, List.take_succ_cons]
  · rw [hwithout]
    exact hroom
  · intro m hm
    cases m with
    | zero => exact hfull
    | succ m =>
      rw [hwithout]
      exact hshortest m (Nat.lt_of_succ_lt_succ hm)
  · have hsub : r.entries.Sublist q.entries := by
      rw [hr, hsplit]
      exact (List.sublist_cons_self e back).append_left front
    exact h.stay.trans hsub
  · exact (h.all.cons e).trans (perm_of_take? htaken)

theorem Sound.occupied_eq_zero {q : Partition α} (hq : q.Sound) (h : q.entries = []) :
    q.occupied = 0 := by
  rw [hq.occupied, h]
  rfl

/-- Room for no more than the limit is made, as long as there are as many steps as entries. -/
theorem Sound.makeRoomUpTo_evicts {q : Partition α} (hq : q.Sound) {needed limit n : Nat}
    (hlimit : limit < maxWord) (hneeded : needed ≤ limit) (hn : q.entries.length ≤ n) :
    (makeRoomUpTo needed limit n q).made = true ∧
      q.Evicts needed limit (makeRoomUpTo needed limit n q).evicted
        (makeRoomUpTo needed limit n q).rest := by
  induction n generalizing q with
  | zero =>
    have hempty := hq.occupied_eq_zero (List.length_eq_zero_iff.mp (Nat.le_zero.mp hn))
    have hroom : q.occupied + needed ≤ limit := by omega
    exact ⟨(fits_iff hlimit).mpr hroom, hq.evicts_nil hroom⟩
  | succ n ih =>
    rw [makeRoomUpTo]
    by_cases hfits : q.fits needed limit = true
    · rw [if_pos hfits]
      exact ⟨rfl, hq.evicts_nil ((fits_iff hlimit).mp hfits)⟩
    · have hfull : limit < q.occupied + needed := by
        rw [fits_iff hlimit] at hfits
        omega
      rw [if_neg hfits]
      cases hfirst : firstOut? q.entries with
      | none =>
        -- Without entries no bytes are in use, and what is needed is within the limit.
        have hempty := hq.occupied_eq_zero ((firstOut?_eq_none_iff _).mp hfirst)
        omega
      | some e =>
        have he := isFirstOut_of_firstOut? hfirst
        obtain ⟨r, htaken⟩ := hq.exists_take? he.1
        have hlength := (perm_of_take? htaken).length_eq
        rw [List.length_cons] at hlength
        obtain ⟨hmade, hevicts⟩ := ih (hq.take? htaken) (by omega)
        simp only [htaken]
        exact ⟨hmade, hq.evicts_cons hfull he htaken hevicts⟩

theorem Sound.makeRoom_evicts {q : Partition α} (hq : q.Sound) {needed limit : Nat}
    (hlimit : limit < maxWord) (hneeded : needed ≤ limit) :
    (q.makeRoom needed limit).made = true ∧
      q.Evicts needed limit (q.makeRoom needed limit).evicted (q.makeRoom needed limit).rest :=
  hq.makeRoomUpTo_evicts hlimit hneeded (Nat.le_refl _)

/-! ### Making room in turns -/

/-- One turn, with what it takes out. There is no room, and the key of an entry that no other goes before
is looked up; a turn that finds nothing under it is made all the same. -/
inductive Turn (needed limit : Nat) (q : Partition α) : List (Entry α) → Partition α → Prop
  | out {e f : Entry α} {r : Partition α} (full : q.fits needed limit = false) (first : q.IsFirstOut e)
    (found : q.take? e.usage.key = some (f, r)) : Turn needed limit q [f] r
  | idle {e : Entry α} (full : q.fits needed limit = false) (first : q.IsFirstOut e)
    (lost : q.take? e.usage.key = none) : Turn needed limit q [] q

/-- Turns one after the other. -/
inductive Turns (needed limit : Nat) : Partition α → List (Entry α) → Partition α → Prop
  | nil (q : Partition α) : Turns needed limit q [] q
  | cons {q r s : Partition α} {es fs : List (Entry α)} (turn : Turn needed limit q es r)
    (rest : Turns needed limit r fs s) : Turns needed limit q (es ++ fs) s

/-- There is room, or nothing is left to take out. -/
def Ended (needed limit : Nat) (q : Partition α) : Prop :=
  q.fits needed limit = true ∨ q.entries = []

/-- No turn is idle. -/
theorem Sound.turn_cases {q r : Partition α} (hq : q.Sound) {needed limit : Nat} {es : List (Entry α)}
    (h : Turn needed limit q es r) :
    q.fits needed limit = false ∧
      ∃ e, q.IsFirstOut e ∧ es = [e] ∧ q.take? e.usage.key = some (e, r) := by
  cases h with
  | @out e f r hfull hfirst hfound =>
    obtain rfl := hq.eq_of_take? hfirst.1 hfound
    exact ⟨hfull, f, hfirst, rfl, hfound⟩
  | idle hfull hfirst hlost =>
    obtain ⟨r, hr⟩ := hq.exists_take? hfirst.1
    rw [hlost] at hr
    cases hr

/-- With every turn there is one entry less. -/
theorem Sound.count_turn {q r : Partition α} (hq : q.Sound) {needed limit : Nat}
    {es : List (Entry α)} (h : Turn needed limit q es r) : r.count + 1 = q.count := by
  obtain ⟨_, e, _, _, htaken⟩ := hq.turn_cases h
  exact (perm_of_take? htaken).length_eq

theorem Sound.turns {q r : Partition α} (hq : q.Sound) {needed limit : Nat} {es : List (Entry α)}
    (h : Turns needed limit q es r) : r.Sound := by
  induction h with
  | nil q => exact hq
  | cons turn _ ih =>
    obtain ⟨_, e, _, _, htaken⟩ := hq.turn_cases turn
    exact ih (hq.take? htaken)

/-- Turns that have come to their end have done what making room does, however many entries stand first
in the order of eviction as far as a turn can see. -/
theorem Sound.makeRoomUpTo_of_turns {q r : Partition α} (hq : q.Sound) {needed limit n : Nat}
    {es : List (Entry α)} (h : Turns needed limit q es r) (hended : r.Ended needed limit)
    (hn : q.entries.length ≤ n) :
    makeRoomUpTo needed limit n q = ⟨r.fits needed limit, es, r⟩ := by
  -- Every turn takes one entry out, and so one of the steps.
  induction h generalizing n with
  | nil q =>
    cases n with
    | zero => rfl
    | succ n =>
      rw [makeRoomUpTo]
      by_cases hfits : q.fits needed limit = true
      · rw [if_pos hfits, hfits]
      · have hfirst := (firstOut?_eq_none_iff _).mpr (hended.resolve_left hfits)
        rw [if_neg hfits]
        simp only [hfirst, hfits]
  | @cons q r s es fs turn _ ih =>
    obtain ⟨hfull, e, he, rfl, htaken⟩ := hq.turn_cases turn
    have hlength := (perm_of_take? htaken).length_eq
    rw [List.length_cons] at hlength
    cases n with
    | zero => omega
    | succ n =>
      have hrest := ih (hq.take? htaken) (n := n) hended (by omega)
      rw [makeRoomUpTo, if_neg (by rw [hfull]; exact Bool.false_ne_true)]
      simp only [hq.firstOut?_eq_some he, htaken, hrest]
      rfl

/-- Making room is a series of turns that has come to its end. -/
theorem Sound.turns_makeRoomUpTo {q : Partition α} (hq : q.Sound) (needed limit : Nat) {n : Nat}
    (hn : q.entries.length ≤ n) :
    Turns needed limit q (makeRoomUpTo needed limit n q).evicted (makeRoomUpTo needed limit n q).rest ∧
      (makeRoomUpTo needed limit n q).rest.Ended needed limit := by
  induction n generalizing q with
  | zero => exact ⟨.nil q, Or.inr (List.length_eq_zero_iff.mp (Nat.le_zero.mp hn))⟩
  | succ n ih =>
    rw [makeRoomUpTo]
    by_cases hfits : q.fits needed limit = true
    · rw [if_pos hfits]
      exact ⟨.nil q, Or.inl hfits⟩
    · rw [if_neg hfits]
      cases hfirst : firstOut? q.entries with
      | none => exact ⟨.nil q, Or.inr ((firstOut?_eq_none_iff _).mp hfirst)⟩
      | some e =>
        have he := isFirstOut_of_firstOut? hfirst
        obtain ⟨r, htaken⟩ := hq.exists_take? he.1
        have hlength := (perm_of_take? htaken).length_eq
        rw [List.length_cons] at hlength
        obtain ⟨hturns, hended⟩ := ih (hq.take? htaken) (by omega)
        simp only [htaken]
        exact ⟨.cons (.out (by simpa using hfits) he htaken) hturns, hended⟩

/-- Every series of turns comes to an end, and all that do end alike. -/
theorem Sound.turns_iff {q : Partition α} (hq : q.Sound) {needed limit : Nat} {es : List (Entry α)}
    {r : Partition α} :
    Turns needed limit q es r ∧ r.Ended needed limit ↔
      es = (q.makeRoom needed limit).evicted ∧ r = (q.makeRoom needed limit).rest := by
  constructor
  · rintro ⟨hturns, hended⟩
    rw [makeRoom, hq.makeRoomUpTo_of_turns hturns hended (Nat.le_refl _)]
    exact ⟨rfl, rfl⟩
  · rintro ⟨rfl, rfl⟩
    exact hq.turns_makeRoomUpTo needed limit (Nat.le_refl _)

end Partition

end PlanReuse
