import Mathlib.Data.Finset.Card
import Mathlib.Data.List.Dedup
import PlanReuse.Costing.Estimator
import PlanReuse.Proofs.Lookup

/-!
# Remembered decisions

A decision that is remembered is the one that the forecasts in force give, so remembering changes no
answer. How many decisions are remembered is the number of different questions answered since the latest
calibration, up to the capacity.
-/

namespace PlanReuse.Estimator

/-! ### Verdicts -/

/-- The same estimator with no decision remembered. -/
def forget (e : Estimator) : Estimator := { e with decisions := [] }

/-- What the forecasts say, whatever is remembered. -/
def verdict (e : Estimator) (w : Workload) (size : Nat) : Except CostError Placement :=
  match (e.leastFrom w size none 0 e.devices).1 with
  | .error fault => .error fault
  | .ok none => .error .notCalibrated
  | .ok (some (d, _)) => .ok (.all d)

theorem leastFrom_eq_of_decisions (e : Estimator) (decisions : List (DecisionKey × Placement))
    (w : Workload) (size : Nat) (lead : Option (DeviceKind × Binary64)) (count : Nat)
    (ds : List DeviceKind) :
    { e with decisions }.leastFrom w size lead count ds = e.leastFrom w size lead count ds := by
  induction ds generalizing lead count with
  | nil => rfl
  | cons d ds ih =>
    have htime : { e with decisions }.predictTime d w size = e.predictTime d w size := rfl
    simp only [leastFrom, htime, ih]

theorem verdict_eq_of_decisions (e : Estimator) (decisions : List (DecisionKey × Placement))
    (w : Workload) (size : Nat) : { e with decisions }.verdict w size = e.verdict w size := by
  simp only [verdict, leastFrom_eq_of_decisions]

/-! ### One prediction -/

theorem decideAnew_eq (e : Estimator) (key : Option DecisionKey) (w : Workload) (size : Nat) :
    (e.decideAnew key w size).1.outcome = e.verdict w size ∧
      (e.decideAnew key w size).2 =
        match e.verdict w size, key with
        | .ok p, some k => e.remember k p
        | _, _ => e := by
  rw [decideAnew, verdict]
  rcases e.leastFrom w size none 0 e.devices with ⟨fault | _ | ⟨d, time⟩, count⟩
  · exact ⟨rfl, rfl⟩
  · exact ⟨rfl, rfl⟩
  · cases key <;> exact ⟨rfl, rfl⟩

theorem of_keyOf?_eq_some {code : PlanCode} {w : Workload} {size : Nat} {key : DecisionKey}
    (h : keyOf? code w size = some key) : key.workload = w ∧ key.size = size := by
  rw [keyOf?] at h
  split at h
  · cases h
    exact ⟨rfl, rfl⟩
  · cases h

/-- All that a prediction can do: it has no key and decides anew, it reuses a decision, or it decides
anew and remembers the decision if there is one. -/
theorem predict_cases (e : Estimator) (code : PlanCode) (w : Workload) (size : Nat) :
    let r := e.predict code w size
    (keyOf? code w size = none ∧ r.1.outcome = e.verdict w size ∧ r.2 = e) ∨
    (∃ key p, keyOf? code w size = some key ∧ e.decisions.lookup key = some p ∧
      r.1.outcome = .ok p ∧
      r.2 = { e with decisions := (key, p) :: e.decisions.filter (·.1 ≠ key) }) ∨
    (∃ key, keyOf? code w size = some key ∧ e.decisions.lookup key = none ∧
      r.1.outcome = e.verdict w size ∧
      r.2 = match e.verdict w size with
        | .ok p => e.remember key p
        | .error _ => e) := by
  intro r
  cases hkey : keyOf? code w size with
  | none =>
    have hr : r = e.decideAnew none w size := by
      simp only [r, predict, hkey]
    obtain ⟨houtcome, hafter⟩ := e.decideAnew_eq none w size
    refine Or.inl ⟨rfl, hr ▸ houtcome, ?_⟩
    rw [hr, hafter]
    split <;> simp_all
  | some key =>
    cases hfound : e.decisions.lookup key with
    | some p =>
      have hr : r = (⟨.ok p, 0, none⟩,
          { e with decisions := (key, p) :: e.decisions.filter (·.1 ≠ key) }) := by
        simp only [r, predict, hkey, reuse?, hfound, Option.map_some]
      exact Or.inr (Or.inl ⟨key, p, rfl, hfound, by rw [hr], by rw [hr]⟩)
    | none =>
      have hr : r = e.decideAnew (some key) w size := by
        simp only [r, predict, hkey, reuse?, hfound, Option.map_none]
      obtain ⟨houtcome, hafter⟩ := e.decideAnew_eq (some key) w size
      refine Or.inr (Or.inr ⟨key, rfl, hfound, hr ▸ houtcome, ?_⟩)
      rw [hr, hafter]
      cases e.verdict w size <;> rfl

/-- Moving a decision to the front repeats no key. -/
theorem nodup_reuse {decisions : List (DecisionKey × Placement)}
    (h : (decisions.map Prod.fst).Nodup) {key : DecisionKey} {p : Placement}
    (hfound : decisions.lookup key = some p) :
    (((key, p) :: decisions.filter (·.1 ≠ key)).map Prod.fst).Nodup :=
  ((perm_of_lookup_eq_some h hfound).map Prod.fst).nodup_iff.mpr h

theorem decisions_remember {e : Estimator} {key : DecisionKey} (h : e.decisions.lookup key = none)
    (p : Placement) : (e.remember key p).decisions = ((key, p) :: e.decisions).take e.capacity := by
  rw [remember, filter_ne_of_lookup_eq_none h]

theorem nodup_remember {e : Estimator} (he : (e.decisions.map Prod.fst).Nodup) {key : DecisionKey}
    (hnew : e.decisions.lookup key = none) {p : Placement} :
    ((e.remember key p).decisions.map Prod.fst).Nodup := by
  have hkey : key ∉ e.decisions.map Prod.fst := by
    intro hmem
    obtain ⟨d, hd, rfl⟩ := List.mem_map.mp hmem
    exact bne_iff_ne.mp (List.lookup_eq_none_iff.mp hnew d hd) rfl
  rw [decisions_remember hnew]
  exact ((List.take_sublist _ _).map Prod.fst).nodup (List.nodup_cons.mpr ⟨hkey, he⟩)

/-! ### Runs -/

/-- What can be done with an estimator. The source of measurements answers every calibration anew. -/
inductive Action
  | calibrate (answer : Except CostError Measurements)
  | predict (code : PlanCode) (w : Workload) (size : Nat)

def act (e : Estimator) : Action → Estimator
  | .calibrate answer => (e.calibrate answer).2
  | .predict code w size => (e.predict code w size).2

def run (e : Estimator) (actions : List Action) : Estimator := actions.foldl act e

/-- The keys of the questions answered since the latest calibration, after one more action. -/
def answeredBy (e : Estimator) (keys : List DecisionKey) : Action → List DecisionKey
  | .calibrate answer =>
    match (e.calibrate answer).1 with
    | .ok () => []
    | .error _ => keys
  | .predict code w size =>
    match (e.predict code w size).1.outcome with
    | .ok _ => (keyOf? code w size).toList ++ keys
    | .error _ => keys

/-- The keys of the questions answered since the latest calibration, the latest first. -/
def answered : Estimator → List DecisionKey → List Action → List DecisionKey
  | _, keys, [] => keys
  | e, keys, x :: xs => answered (e.act x) (e.answeredBy keys x) xs

/-! ### What is remembered -/

/-- An estimator that remembers nothing but its verdicts, on questions that have been answered, and as
many of those as it can. -/
structure Settled (e : Estimator) (keys : List DecisionKey) : Prop where
  distinct : (e.decisions.map Prod.fst).Nodup
  decided : ∀ d ∈ e.decisions, e.verdict d.1.workload d.1.size = .ok d.2
  answered : ∀ d ∈ e.decisions, d.1 ∈ keys
  count : e.decisions.length = min e.capacity keys.toFinset.card

theorem settled_of_decisions_eq_nil {e : Estimator} (h : e.decisions = []) : Settled e [] := by
  constructor
  · rw [h]
    exact List.nodup_nil
  · rw [h]
    exact fun d hd => nomatch hd
  · rw [h]
    exact fun d hd => nomatch hd
  · rw [h]
    exact (Nat.min_zero e.capacity).symm

section Settled

variable {e : Estimator} {keys : List DecisionKey} {key : DecisionKey} {p : Placement}

theorem Settled.verdict_of_lookup (he : Settled e keys) (h : e.decisions.lookup key = some p) :
    e.verdict key.workload key.size = .ok p :=
  he.decided (key, p) (mem_of_lookup_eq_some h)

theorem Settled.subset (he : Settled e keys) :
    (e.decisions.map Prod.fst).toFinset ⊆ keys.toFinset := by
  intro k hk
  obtain ⟨d, hd, rfl⟩ := List.mem_map.mp (List.mem_toFinset.mp hk)
  exact List.mem_toFinset.mpr (he.answered d hd)

theorem Settled.length_eq_card (he : Settled e keys) :
    e.decisions.length = (e.decisions.map Prod.fst).toFinset.card := by
  rw [List.toFinset_card_of_nodup he.distinct, List.length_map]

theorem Settled.reuse (he : Settled e keys) (h : e.decisions.lookup key = some p) :
    Settled { e with decisions := (key, p) :: e.decisions.filter (·.1 ≠ key) } (key :: keys) := by
  have hperm := perm_of_lookup_eq_some he.distinct h
  have hkey : key ∈ keys := he.answered (key, p) (mem_of_lookup_eq_some h)
  constructor
  · exact nodup_reuse he.distinct h
  · intro d hd
    exact (verdict_eq_of_decisions ..).trans (he.decided d (hperm.mem_iff.mp hd))
  · exact fun d hd => List.mem_cons_of_mem _ (he.answered d (hperm.mem_iff.mp hd))
  · rw [hperm.length_eq, he.count, List.toFinset_cons,
      Finset.insert_eq_of_mem (List.mem_toFinset.mpr hkey)]

/-- A question that is answered but no longer remembered had to make room for others. -/
theorem Settled.capacity_le (he : Settled e keys) (hkey : key ∈ keys)
    (hlost : e.decisions.lookup key = none) : e.capacity ≤ e.decisions.length := by
  have hnot : key ∉ (e.decisions.map Prod.fst).toFinset := by
    intro hmem
    obtain ⟨d, hd, rfl⟩ := List.mem_map.mp (List.mem_toFinset.mp hmem)
    exact bne_iff_ne.mp (List.lookup_eq_none_iff.mp hlost d hd) rfl
  have hlt := Finset.card_lt_card
    (he.subset.ssubset_of_mem_notMem (List.mem_toFinset.mpr hkey) hnot)
  rw [← he.length_eq_card] at hlt
  have hcount := he.count
  omega

theorem Settled.remember (he : Settled e keys) (hnew : e.decisions.lookup key = none)
    (hp : e.verdict key.workload key.size = .ok p) : Settled (e.remember key p) (key :: keys) := by
  have hdecisions := decisions_remember hnew p
  have hsub : (e.remember key p).decisions.Sublist ((key, p) :: e.decisions) := by
    rw [hdecisions]
    exact List.take_sublist _ _
  constructor
  · exact nodup_remember he.distinct hnew
  · intro d hd
    refine (e.verdict_eq_of_decisions ..).trans ?_
    rcases List.mem_cons.mp (hsub.subset hd) with rfl | hd
    · exact hp
    · exact he.decided d hd
  · intro d hd
    rcases List.mem_cons.mp (hsub.subset hd) with rfl | hd
    · exact List.mem_cons_self
    · exact List.mem_cons_of_mem _ (he.answered d hd)
  · rw [hdecisions, List.length_take, List.length_cons, List.toFinset_cons]
    show min e.capacity _ = min e.capacity _
    have hcount := he.count
    by_cases hkey : key ∈ keys
    · -- Answered before and lost since: there was no room for it, so there is none for one more.
      have hfull := he.capacity_le hkey hnew
      rw [Finset.insert_eq_of_mem (List.mem_toFinset.mpr hkey)]
      omega
    · rw [Finset.card_insert_of_notMem (by rwa [List.mem_toFinset])]
      omega

theorem Settled.outcome_predict (he : Settled e keys) (code : PlanCode) (w : Workload) (size : Nat) :
    (e.predict code w size).1.outcome = e.verdict w size := by
  rcases e.predict_cases code w size with ⟨_, houtcome, _⟩ | ⟨key, p, hkey, hfound, houtcome, _⟩ |
    ⟨_, _, _, houtcome, _⟩
  · exact houtcome
  · obtain ⟨rfl, rfl⟩ := of_keyOf?_eq_some hkey
    rw [houtcome, he.verdict_of_lookup hfound]
  · exact houtcome

theorem Settled.predict (he : Settled e keys) (code : PlanCode) (w : Workload) (size : Nat) :
    Settled (e.predict code w size).2 (e.answeredBy keys (.predict code w size)) := by
  rcases e.predict_cases code w size with ⟨hkey, houtcome, hafter⟩ |
    ⟨key, p, hkey, hfound, houtcome, hafter⟩ | ⟨key, hkey, hnew, houtcome, hafter⟩
  · have hkeys : e.answeredBy keys (.predict code w size) = keys := by
      rw [answeredBy, hkey]
      split <;> rfl
    rw [hafter, hkeys]
    exact he
  · rw [hafter, answeredBy, houtcome, hkey]
    exact he.reuse hfound
  · rw [hafter, answeredBy, houtcome, hkey]
    cases hverdict : e.verdict w size with
    | error fault => exact he
    | ok p =>
      obtain ⟨rfl, rfl⟩ := of_keyOf?_eq_some hkey
      exact he.remember hnew hverdict

end Settled

/-- All that a calibration can do. -/
theorem calibrate_cases (e : Estimator) (answer : Except CostError Measurements) :
    (∃ fault, e.calibrate answer = (.error fault, e)) ∨
    ∃ forecasts, e.calibrate answer = (.ok (), { e with forecasts, decisions := [] }) := by
  cases answer with
  | error fault => exact Or.inl ⟨fault, rfl⟩
  | ok m =>
    simp only [calibrate]
    split
    · exact Or.inl ⟨_, rfl⟩
    · exact Or.inr ⟨_, rfl⟩

theorem Settled.act {e : Estimator} {keys : List DecisionKey} (he : Settled e keys) (x : Action) :
    Settled (e.act x) (e.answeredBy keys x) := by
  cases x with
  | calibrate answer =>
    rw [Estimator.act, answeredBy]
    rcases e.calibrate_cases answer with ⟨fault, h⟩ | ⟨forecasts, h⟩
    · rw [h]
      exact he
    · rw [h]
      exact settled_of_decisions_eq_nil rfl
  | predict code w size => exact he.predict code w size

theorem Settled.run {e : Estimator} {keys : List DecisionKey} (he : Settled e keys)
    (actions : List Action) : Settled (e.run actions) (Estimator.answered e keys actions) := by
  induction actions generalizing e keys with
  | nil => exact he
  | cons x xs ih => exact ih (he.act x)

theorem capacity_act (e : Estimator) (x : Action) : (e.act x).capacity = e.capacity := by
  cases x with
  | calibrate answer =>
    rw [act]
    rcases e.calibrate_cases answer with ⟨_, h⟩ | ⟨_, h⟩ <;> rw [h]
  | predict code w size =>
    rw [act]
    rcases e.predict_cases code w size with ⟨_, _, h⟩ | ⟨_, _, _, _, _, h⟩ | ⟨_, _, _, _, h⟩
    · rw [h]
    · rw [h]
    · rw [h]
      split <;> rfl

theorem capacity_run (e : Estimator) (actions : List Action) :
    (e.run actions).capacity = e.capacity := by
  induction actions generalizing e with
  | nil => rfl
  | cons x xs ih => exact (ih (e.act x)).trans (e.capacity_act x)

/-- In every run of calibrations and predictions, whatever the source of measurements answers, a
prediction comes to what it would come to with no decision remembered, a calibration that fails leaves
everything as it was, and the decisions remembered are as many as there are different questions with a
key that have been answered since the latest calibration, up to the capacity. -/
theorem remembering_transparent (capacity : Nat) (extrapolation : Extrapolation)
    (devices : List DeviceKind) (workloads : List Workload) (actions : List Action) :
    let start := ((new capacity extrapolation).withDevices devices).withWorkloads workloads
    let e := start.run actions
    (∀ code w size, (e.predict code w size).1.outcome = (e.forget.predict code w size).1.outcome) ∧
      (∀ answer fault, (e.calibrate answer).1 = .error fault → (e.calibrate answer).2 = e) ∧
      e.decisions.length = min (max capacity 1) (answered start [] actions).toFinset.card := by
  intro start e
  have he : Settled e (answered start [] actions) := (settled_of_decisions_eq_nil rfl).run actions
  refine ⟨?_, ?_, ?_⟩
  · intro code w size
    have hforget : Settled e.forget [] := settled_of_decisions_eq_nil rfl
    rw [he.outcome_predict, hforget.outcome_predict]
    exact (e.verdict_eq_of_decisions [] w size).symm
  · intro answer fault hfault
    rcases e.calibrate_cases answer with ⟨_, h⟩ | ⟨_, h⟩
    · rw [h]
    · rw [h] at hfault
      cases hfault
  · rw [he.count, capacity_run]
    rfl

/- Forecasts are lines through the first two samples, and two decisions can be remembered. Of three
questions answered the one on the small data of the first plan is forgotten first. The second
calibration fails at its second place, after a forecast at its first, and would have made the graphics
card the better one for all data. -/
theorem remembering_transparent_after_failed_calibration :
    let line : Extrapolation
      | p :: q :: _ => .ok (Curve.line p q)
      | ss => .error (.insufficientSamples ss.length)
    let sample (size time : Nat) : Sample := ⟨size, .ofNat time⟩
    let first := (Measurements.empty.insert .cpu .scan [sample 100 1, sample 200 2]).insert .gpu .scan
      [sample 100 5, sample 200 6]
    let second := (Measurements.empty.insert .cpu .scan [sample 100 90, sample 200 90]).insert .gpu
      .scan [sample 100 5]
    let plan (n : Nat) : PlanCode := .ofNumbers ⟨[n], 0⟩
    let actions : List Action :=
      [.predict (plan 0) .scan 150, .calibrate (.ok first), .predict (plan 0) .scan 150,
        .predict (plan 0) .scan 9000, .predict (plan 1) .scan 150, .predict .none .scan 150,
        .calibrate (.ok second)]
    let start := ((new 2 line).withDevices [.cpu, .gpu]).withWorkloads [.scan]
    let e := start.run actions
    ((e.calibrate (.ok second)).1 = .error (.insufficientSamples 1) ∧
        (e.predict (plan 0) .scan 150).1.outcome = .ok (.all .cpu) ∧
        e.decisions.length = 2 ∧ (answered start [] actions).toFinset.card = 3) ∧
      (e.predict (plan 0) .scan 150).1.outcome = (e.forget.predict (plan 0) .scan 150).1.outcome ∧
      (e.calibrate (.ok second)).2 = e ∧
      e.decisions.length = min (max 2 1) (answered start [] actions).toFinset.card := by
  intro line sample first second plan actions start e
  have hvalues : (e.calibrate (.ok second)).1 = .error (.insufficientSamples 1) ∧
      (e.predict (plan 0) .scan 150).1.outcome = .ok (.all .cpu) ∧
      e.decisions.length = 2 ∧ (answered start [] actions).toFinset.card = 3 := by
    decide +kernel +revert
  obtain ⟨hall, hcalibrate, hcount⟩ := remembering_transparent 2 line [.cpu, .gpu] [.scan] actions
  have hpredict : ∀ code w size,
      (e.predict code w size).1.outcome = (e.forget.predict code w size).1.outcome := hall
  exact ⟨hvalues, hpredict (plan 0) .scan 150, hcalibrate (.ok second) _ hvalues.1, hcount⟩

end PlanReuse.Estimator
