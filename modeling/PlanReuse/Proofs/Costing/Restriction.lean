import PlanReuse.Proofs.Costing.Decisions

/-!
# Restricting the devices

A decision is made among the devices listed at that moment, and it is remembered without the list. After
the list has been restricted, a decision made before still answers its question, so the restriction holds
at once exactly if no decision for another device is remembered. The next calibration that succeeds makes
it hold in any case.
-/

namespace PlanReuse

/-- All on one of the listed devices. -/
def Placement.Within (p : Placement) (devices : List DeviceKind) : Prop := ∃ d ∈ devices, p = .all d

instance (p : Placement) (devices : List DeviceKind) : Decidable (p.Within devices) :=
  inferInstanceAs (Decidable (∃ d ∈ devices, p = .all d))

namespace Estimator

/-! ### Reconfiguration -/

/-- What can be done with an estimator whose devices and workloads are not fixed. -/
inductive Move
  | withDevices (devices : List DeviceKind)
  | withWorkloads (workloads : List Workload)
  | act (x : Action)

def Move.keepsDevices : Move → Bool
  | .withDevices _ => false
  | _ => true

def move (e : Estimator) : Move → Estimator
  | .withDevices devices => e.withDevices devices
  | .withWorkloads workloads => e.withWorkloads workloads
  | .act x => e.act x

def moveAll (e : Estimator) (moves : List Move) : Estimator := moves.foldl move e

/-- Every answer is a placement on the listed devices, now and until another list is given. -/
def Confined (e : Estimator) (devices : List DeviceKind) : Prop :=
  ∀ later : List Move, (∀ m ∈ later, m.keepsDevices = true) →
    ∀ code w size p, ((e.moveAll later).predict code w size).1.outcome = .ok p → p.Within devices

/-! ### Verdicts -/

theorem mem_of_leastFrom {e : Estimator} {w : Workload} {size : Nat} {ds : List DeviceKind}
    {lead : Option (DeviceKind × Binary64)} {count : Nat} {d : DeviceKind} {time : Binary64}
    (h : (e.leastFrom w size lead count ds).1 = .ok (some (d, time))) :
    d ∈ ds ∨ ∃ t, lead = some (d, t) := by
  induction ds generalizing lead count with
  | nil => exact Or.inr ⟨time, Except.ok.inj h⟩
  | cons c ds ih =>
    simp only [leastFrom] at h
    cases htime : e.predictTime c w size with
    | error fault =>
      rw [htime] at h
      cases h
    | ok t =>
      simp only [htime] at h
      rcases ih h with hd | ⟨u, hu⟩
      · exact Or.inl (List.mem_cons_of_mem c hd)
      · cases lead with
        | none =>
          cases hu
          exact Or.inl List.mem_cons_self
        | some least =>
          dsimp only at hu
          split at hu
          · cases hu
            exact Or.inl List.mem_cons_self
          · exact Or.inr ⟨u, hu⟩

theorem within_of_verdict {e : Estimator} {w : Workload} {size : Nat} {p : Placement}
    (h : e.verdict w size = .ok p) : p.Within e.devices := by
  rw [verdict] at h
  split at h
  · cases h
  · cases h
  · next d time hleast =>
    cases h
    rcases mem_of_leastFrom hleast with hd | ⟨_, hnone⟩
    · exact ⟨d, hd, rfl⟩
    · cases hnone

/-! ### One move -/

/-- A decision that is remembered after a prediction was remembered before or is the verdict. -/
theorem mem_decisions_predict {e : Estimator} {code : PlanCode} {w : Workload} {size : Nat}
    {x : DecisionKey × Placement} (hx : x ∈ (e.predict code w size).2.decisions) :
    x ∈ e.decisions ∨ keyOf? code w size = some x.1 ∧ e.verdict w size = .ok x.2 := by
  rcases e.predict_cases code w size with ⟨_, _, hafter⟩ | ⟨key, p, _, hfound, _, hafter⟩ |
    ⟨key, hkey, _, _, hafter⟩
  · rw [hafter] at hx
    exact Or.inl hx
  · rw [hafter] at hx
    rcases List.mem_cons.mp hx with rfl | hx
    · exact Or.inl (mem_of_lookup_eq_some hfound)
    · exact Or.inl (List.mem_of_mem_filter hx)
  · rw [hafter] at hx
    cases hverdict : e.verdict w size with
    | error fault =>
      rw [hverdict] at hx
      exact Or.inl hx
    | ok p =>
      rw [hverdict] at hx
      rcases List.mem_cons.mp (List.mem_of_mem_take hx) with rfl | hx
      · exact Or.inr ⟨hkey, rfl⟩
      · exact Or.inl (List.mem_of_mem_filter hx)

/-- Every move remembers nothing new but the verdict on a question that it asks. -/
theorem mem_decisions_move {e : Estimator} {m : Move} {x : DecisionKey × Placement}
    (hx : x ∈ (e.move m).decisions) :
    x ∈ e.decisions ∨ ∃ code, keyOf? code x.1.workload x.1.size = some x.1 ∧
      e.verdict x.1.workload x.1.size = .ok x.2 := by
  cases m with
  | withDevices devices => exact Or.inl hx
  | withWorkloads workloads => exact Or.inl hx
  | act y =>
    cases y with
    | calibrate answer =>
      rw [move, Estimator.act] at hx
      rcases e.calibrate_cases answer with ⟨fault, h⟩ | ⟨forecasts, h⟩
      · rw [h] at hx
        exact Or.inl hx
      · rw [h] at hx
        cases hx
    | predict code w size =>
      rcases mem_decisions_predict hx with hx | ⟨hkey, hverdict⟩
      · exact Or.inl hx
      · obtain ⟨rfl, rfl⟩ := of_keyOf?_eq_some hkey
        exact Or.inr ⟨code, hkey, hverdict⟩

theorem devices_act (e : Estimator) (x : Action) : (e.act x).devices = e.devices := by
  cases x with
  | calibrate answer =>
    rw [act]
    rcases e.calibrate_cases answer with ⟨_, h⟩ | ⟨_, h⟩ <;> rw [h]
  | predict code w size =>
    rw [act]
    rcases e.predict_cases code w size with ⟨_, _, h⟩ | ⟨_, _, _, _, _, h⟩ | ⟨_, _, _, _, h⟩
    · rw [h]
    · rw [h]
    · rw [h]
      split <;> rfl

theorem devices_move {e : Estimator} {m : Move} (h : m.keepsDevices = true) :
    (e.move m).devices = e.devices := by
  cases m with
  | withDevices devices => cases h
  | withWorkloads workloads => rfl
  | act x => exact e.devices_act x

/-! ### What stays within the list -/

/-- The devices are those of a list, and nothing is remembered that lies outside it. -/
structure Restricted (e : Estimator) (devices : List DeviceKind) : Prop where
  listed : e.devices = devices
  decided : ∀ x ∈ e.decisions, x.2.Within devices

section Restricted

variable {e : Estimator} {devices : List DeviceKind}

theorem Restricted.move (he : Restricted e devices) {m : Move} (hm : m.keepsDevices = true) :
    Restricted (e.move m) devices := by
  refine ⟨(devices_move hm).trans he.listed, ?_⟩
  intro x hx
  rcases mem_decisions_move hx with hx | ⟨_, _, hverdict⟩
  · exact he.decided x hx
  · exact he.listed ▸ within_of_verdict hverdict

theorem Restricted.moveAll (he : Restricted e devices) {moves : List Move}
    (hmoves : ∀ m ∈ moves, m.keepsDevices = true) : Restricted (e.moveAll moves) devices := by
  induction moves generalizing e with
  | nil => exact he
  | cons m ms ih =>
    have hm := hmoves m List.mem_cons_self
    exact ih (he.move hm) fun n hn => hmoves n (List.mem_cons_of_mem m hn)

theorem Restricted.within (he : Restricted e devices) {code : PlanCode} {w : Workload} {size : Nat}
    {p : Placement} (h : (e.predict code w size).1.outcome = .ok p) : p.Within devices := by
  rcases e.predict_cases code w size with ⟨_, houtcome, _⟩ | ⟨key, q, _, hfound, houtcome, _⟩ |
    ⟨_, _, _, houtcome, _⟩
  · exact he.listed ▸ within_of_verdict (houtcome.symm.trans h)
  · cases houtcome.symm.trans h
    exact he.decided (key, p) (mem_of_lookup_eq_some hfound)
  · exact he.listed ▸ within_of_verdict (houtcome.symm.trans h)

theorem Restricted.confined (he : Restricted e devices) : e.Confined devices :=
  fun _ hlater _ _ _ _ h => (he.moveAll hlater).within h

end Restricted

/-! ### What is remembered can be asked for -/

/-- Every decision is found under its key, and some plan asks for it. -/
structure Askable (e : Estimator) : Prop where
  distinct : (e.decisions.map Prod.fst).Nodup
  asked : ∀ x ∈ e.decisions, ∃ code, keyOf? code x.1.workload x.1.size = some x.1

theorem askable_new (capacity : Nat) (extrapolation : Extrapolation) :
    Askable (new capacity extrapolation) :=
  ⟨List.nodup_nil, fun _ hx => nomatch hx⟩

theorem nodup_decisions_move {e : Estimator} (he : (e.decisions.map Prod.fst).Nodup) (m : Move) :
    ((e.move m).decisions.map Prod.fst).Nodup := by
  cases m with
  | withDevices devices => exact he
  | withWorkloads workloads => exact he
  | act x =>
    cases x with
    | calibrate answer =>
      rw [move, Estimator.act]
      rcases e.calibrate_cases answer with ⟨fault, h⟩ | ⟨forecasts, h⟩
      · rw [h]
        exact he
      · rw [h]
        exact List.nodup_nil
    | predict code w size =>
      rw [move, Estimator.act]
      rcases e.predict_cases code w size with ⟨_, _, hafter⟩ | ⟨key, p, _, hfound, _, hafter⟩ |
        ⟨key, _, hnew, _, hafter⟩
      · rw [hafter]
        exact he
      · rw [hafter]
        exact nodup_reuse he hfound
      · rw [hafter]
        split
        · exact nodup_remember he hnew
        · exact he

theorem Askable.move {e : Estimator} (he : Askable e) (m : Move) : Askable (e.move m) := by
  refine ⟨nodup_decisions_move he.distinct m, ?_⟩
  intro x hx
  rcases mem_decisions_move hx with hx | ⟨code, hkey, _⟩
  · exact he.asked x hx
  · exact ⟨code, hkey⟩

theorem Askable.moveAll {e : Estimator} (he : Askable e) (moves : List Move) :
    Askable (e.moveAll moves) := by
  induction moves generalizing e with
  | nil => exact he
  | cons m ms ih => exact ih (he.move m)

theorem predict_of_lookup {e : Estimator} {code : PlanCode} {w : Workload} {size : Nat}
    {key : DecisionKey} {p : Placement} (hkey : keyOf? code w size = some key)
    (hfound : e.decisions.lookup key = some p) : (e.predict code w size).1.outcome = .ok p := by
  simp only [predict, hkey, reuse?, hfound, Option.map_some]

/-- However an estimator has been configured, calibrated and asked: a list of devices given to it confines
it at once exactly if all that it remembers lies within the list, and from the next calibration that
succeeds in any case. -/
theorem confined_iff (capacity : Nat) (extrapolation : Extrapolation) (moves : List Move)
    (devices : List DeviceKind) :
    let e := (new capacity extrapolation).moveAll moves
    ((e.withDevices devices).Confined devices ↔ ∀ x ∈ e.decisions, x.2.Within devices) ∧
      ∀ answer, ((e.withDevices devices).calibrate answer).1 = .ok () →
        ((e.withDevices devices).calibrate answer).2.Confined devices := by
  intro e
  have he : Askable e := (askable_new capacity extrapolation).moveAll moves
  refine ⟨⟨?_, ?_⟩, ?_⟩
  · intro hconfined x hx
    obtain ⟨code, hkey⟩ := he.asked x hx
    have hfound : (e.withDevices devices).decisions.lookup x.1 = some x.2 :=
      (lookup_eq_some_iff_of_nodup he.distinct).mpr hx
    exact hconfined [] (fun m hm => nomatch hm) code _ _ x.2 (predict_of_lookup hkey hfound)
  · intro hwithin
    exact Restricted.confined ⟨rfl, hwithin⟩
  · intro answer hok
    rcases (e.withDevices devices).calibrate_cases answer with ⟨fault, h⟩ | ⟨forecasts, h⟩
    · rw [h] at hok
      cases hok
    · rw [h]
      exact Restricted.confined ⟨rfl, fun x hx => nomatch hx⟩

/- The graphics card has won on the large data. The list of the processor alone comes without a calibration,
and the same question is still answered with the card. -/
example :
    let line : Extrapolation
      | p :: q :: _ => .ok (Curve.line p q)
      | ss => .error (.insufficientSamples ss.length)
    let sample (size time : Nat) : Sample := ⟨size, .ofNat time⟩
    let m := (Measurements.empty.insert .cpu .scan [sample 100 1, sample 200 3]).insert .gpu .scan
      [sample 100 5, sample 200 6]
    let plan : PlanCode := .ofNumbers ⟨[0], 0⟩
    let e := (new 2 line).moveAll
      [.withWorkloads [.scan], .act (.calibrate (.ok m)), .act (.predict plan .scan 9000)]
    ((e.withDevices [.cpu]).predict plan .scan 9000).1.outcome = .ok (.all .gpu) ∧
      ¬ (Placement.all .gpu).Within [.cpu] := by
  decide +kernel

end Estimator

end PlanReuse
