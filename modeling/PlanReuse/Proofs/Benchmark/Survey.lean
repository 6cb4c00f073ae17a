import PlanReuse.Benchmark.Suite
import PlanReuse.Costing.Estimator
import PlanReuse.Proofs.Costing.Neighbours
import PlanReuse.Proofs.Lookup
import PlanReuse.Proofs.Report.Faults

/-!
# Surveys

On any host a survey runs the scripts one after the other, each on the state that the one before has left,
and stops at the first place that gives no samples. What it hands out is what the reports said when they
were read. A calibration from it lacks no place, and so fails only for a place with too few samples.
-/

namespace PlanReuse

/-! ### Measurements -/

theorem Measurements.find?_insert (m : Measurements) (d d' : DeviceKind) (w w' : Workload)
    (ss : List Sample) :
    (m.insert d w ss).find? d' w' = if (d', w') = (d, w) then some ss else m.find? d' w' := by
  rw [find?, insert, List.lookup_cons]
  by_cases h : (d', w') = (d, w)
  · rw [if_pos h, h, beq_self_eq_true]
  · rw [if_neg h, beq_eq_false_iff_ne.mpr h]
    exact lookup_filter_ne h m.table

namespace Benchmark

/-- A place and the samples measured there. -/
abbrev Finding := (Workload × DeviceKind) × List Sample

/-- Measurements with some findings put in, the first one first. -/
def collect (m : Measurements) (fs : List Finding) : Measurements :=
  fs.foldl (fun m f => m.insert f.1.2 f.1.1 f.2) m

/-- Of several findings at one place the last one counts. -/
theorem find?_collect (m : Measurements) (fs : List Finding) (d : DeviceKind) (w : Workload) :
    (collect m fs).find? d w = (fs.reverse.lookup (w, d)).or (m.find? d w) := by
  induction fs generalizing m with
  | nil => rfl
  | cons f fs ih =>
    have hplace : ((d, w) = (f.1.2, f.1.1)) = ((w, d) = f.1) := by
      rw [Prod.ext_iff, Prod.ext_iff, and_comm]
    rw [collect, List.foldl_cons]
    refine (ih _).trans ?_
    rw [Measurements.find?_insert, List.reverse_cons, List.lookup_append, Option.or_assoc, List.lookup_cons]
    simp only [hplace]
    by_cases h : (w, d) = f.1
    · rw [if_pos h, beq_iff_eq.mpr h]
      rfl
    · rw [if_neg h, beq_eq_false_iff_ne.mpr h]
      rfl

namespace Suite

variable {σ : Type} {s : Suite} {host : Host σ} {x y z : σ}

/-! ### One place -/

/-- Why a place gives no samples, and the state that the host is left in. -/
inductive Fails (s : Suite) (host : Host σ) (x : σ) (w : Workload) (d : DeviceKind) :
    CostError → σ → Prop
  | notStarted {fault : FileFault}
      (h : host.run x s.root (s.scriptPath w) (s.arguments w d) = .error fault) :
      Fails s host x w d (.benchmarkFailed (s.scriptPath w ++ ": " ++ fault.message)) x
  | notEnded {ending : Ending} {y : σ}
      (h : host.run x s.root (s.scriptPath w) (s.arguments w d) = .ok (ending, y))
      (hending : ending.isSuccess = false) :
      Fails s host x w d (.benchmarkFailed (s.scriptPath w ++ " 退出状态 " ++ ending.message)) y
  | notRead {ending : Ending} {y : σ} {e : ReportError}
      (h : host.run x s.root (s.scriptPath w) (s.arguments w d) = .ok (ending, y))
      (hending : ending.isSuccess = true)
      (hload : Report.load s.columns (s.reportPath w d) (host.readFile y (s.reportPath w d)) = .error e) :
      Fails s host x w d (.report e) y

/-- The script has ended well, and these are the samples of its report. -/
def Gives (s : Suite) (host : Host σ) (x : σ) (w : Workload) (d : DeviceKind) (ss : List Sample)
    (y : σ) : Prop :=
  ∃ ending, host.run x s.root (s.scriptPath w) (s.arguments w d) = .ok (ending, y) ∧
    ending.isSuccess = true ∧
    Report.load s.columns (s.reportPath w d) (host.readFile y (s.reportPath w d)) = .ok ss

theorem measure_cases (s : Suite) (host : Host σ) (x : σ) (w : Workload) (d : DeviceKind) :
    (∃ ss y, s.measure host x w d = (.ok ss, y) ∧ s.Gives host x w d ss y) ∨
      ∃ e y, s.measure host x w d = (.error e, y) ∧ s.Fails host x w d e y := by
  cases hrun : host.run x s.root (s.scriptPath w) (s.arguments w d) with
  | error fault =>
    refine Or.inr ⟨_, x, ?_, .notStarted hrun⟩
    simp only [measure, runBenchmark, hrun]
  | ok result =>
    obtain ⟨ending, y⟩ := result
    cases hending : ending.isSuccess with
    | false =>
      refine Or.inr ⟨_, y, ?_, .notEnded hrun hending⟩
      simp only [measure, runBenchmark, hrun, hending, Bool.false_eq_true, if_false]
    | true =>
      cases hload : Report.load s.columns (s.reportPath w d) (host.readFile y (s.reportPath w d)) with
      | error e =>
        refine Or.inr ⟨_, y, ?_, .notRead hrun hending hload⟩
        simp only [measure, runBenchmark, hrun, hending, if_true, hload]
      | ok ss =>
        refine Or.inl ⟨ss, y, ?_, ending, hrun, hending, hload⟩
        simp only [measure, runBenchmark, hrun, hending, if_true, hload]

theorem measure_of_gives {w : Workload} {d : DeviceKind} {ss : List Sample}
    (h : s.Gives host x w d ss y) : s.measure host x w d = (.ok ss, y) := by
  obtain ⟨ending, hrun, hending, hload⟩ := h
  simp only [measure, runBenchmark, hrun, hending, if_true, hload]

/-! ### One place after the other -/

/-- A host that gives these samples at these places in turn, each on the state that the place before has
left, and the state that the last one leaves. -/
inductive Visits (s : Suite) (host : Host σ) : σ → List Finding → σ → Prop
  | nil {x : σ} : Visits s host x [] x
  | cons {x y z : σ} {w : Workload} {d : DeviceKind} {ss : List Sample} {fs : List Finding}
      (h : s.Gives host x w d ss y) (rest : Visits s host y fs z) :
      Visits s host x (((w, d), ss) :: fs) z

/-- What is said of places that give samples. -/
def foundLines (s : Suite) (fs : List Finding) : List Log.Line :=
  fs.flatMap fun f => s.measureLines f.1.1 f.1.2 (.ok f.2)

/-- Behind places that give samples a survey goes on as if it began there with what they have given. -/
theorem surveyFrom_append {fs : List Finding} (h : s.Visits host x fs y) (m : Measurements)
    (rest : List (Workload × DeviceKind)) :
    s.surveyFrom host x m (fs.map Prod.fst ++ rest) =
      let after := s.surveyFrom host y (collect m fs) rest
      { after with lines := s.foundLines fs ++ after.lines } := by
  induction h generalizing m with
  | nil => rfl
  | @cons x y z w d ss fs h _ ih =>
    rw [List.map_cons, List.cons_append, surveyFrom, measure_of_gives h]
    simp only [ih, foundLines, List.flatMap_cons, List.append_assoc]
    rfl

/-- Either all places give samples, or there is a first one that does not. -/
theorem exists_visits (s : Suite) (host : Host σ) (x : σ) (places : List (Workload × DeviceKind)) :
    (∃ fs y, s.Visits host x fs y ∧ places = fs.map Prod.fst) ∨
      ∃ fs y w d rest e z, s.Visits host x fs y ∧ places = fs.map Prod.fst ++ (w, d) :: rest ∧
        s.measure host y w d = (.error e, z) ∧ s.Fails host y w d e z := by
  induction places generalizing x with
  | nil => exact Or.inl ⟨[], x, .nil, rfl⟩
  | cons place places ih =>
    obtain ⟨w, d⟩ := place
    rcases s.measure_cases host x w d with ⟨ss, y, _, hgives⟩ | ⟨e, z, hmeasure, hfails⟩
    · rcases ih y with ⟨fs, z, hvisits, rfl⟩ | ⟨fs, u, v, c, rest, e, z, hvisits, rfl, hfirst⟩
      · exact Or.inl ⟨((w, d), ss) :: fs, z, .cons hgives hvisits, rfl⟩
      · exact Or.inr ⟨((w, d), ss) :: fs, u, v, c, rest, e, z, .cons hgives hvisits, rfl, hfirst⟩
    · exact Or.inr ⟨[], x, w, d, places, e, z, .nil, rfl, hmeasure, hfails⟩

/-! ### Surveys -/

/-- A survey first makes the folder of the reports. Without it no script runs. With it the survey succeeds
exactly if all places give samples, one after the other, and hands out these; otherwise it stops at the
first place that fails, with its error and nothing done behind it. -/
theorem survey_cases (s : Suite) (host : Host σ) (x : σ) (devices : List DeviceKind)
    (workloads : List Workload) :
    let r := s.survey host x devices workloads
    (∃ fault, host.createFolders x s.results = .error fault ∧ r = ⟨.error (.io fault), x, []⟩) ∨
      ∃ start, host.createFolders x s.results = .ok start ∧
        ((∃ fs y, s.Visits host start fs y ∧ places devices workloads = fs.map Prod.fst ∧
            r = ⟨.ok (collect .empty fs), y, s.foundLines fs⟩) ∨
          ∃ fs y w d rest e z, s.Visits host start fs y ∧
            places devices workloads = fs.map Prod.fst ++ (w, d) :: rest ∧ s.Fails host y w d e z ∧
            r = ⟨.error e, z, s.foundLines fs ++ s.measureLines w d (.error e)⟩) := by
  intro r
  cases hfolders : host.createFolders x s.results with
  | error fault =>
    refine Or.inl ⟨fault, rfl, ?_⟩
    simp only [r, survey, hfolders]
  | ok start =>
    have hr : r = s.surveyFrom host start .empty (places devices workloads) := by
      simp only [r, survey, hfolders]
    refine Or.inr ⟨start, rfl, ?_⟩
    rcases s.exists_visits host start (places devices workloads) with
      ⟨fs, y, hvisits, hplaces⟩ | ⟨fs, y, w, d, rest, e, z, hvisits, hplaces, hmeasure, hfails⟩
    · refine Or.inl ⟨fs, y, hvisits, hplaces, ?_⟩
      have hall := surveyFrom_append hvisits .empty []
      rw [List.append_nil, ← hplaces] at hall
      rw [hr, hall]
      simp only [surveyFrom, List.append_nil]
    · refine Or.inr ⟨fs, y, w, d, rest, e, z, hvisits, hplaces, hfails, ?_⟩
      rw [hr, hplaces, surveyFrom_append hvisits]
      simp only [surveyFrom, hmeasure]

/-! ### What a survey hands out -/

theorem Visits.gives_of_mem {fs : List Finding} (h : s.Visits host x fs y) {f : Finding} (hf : f ∈ fs) :
    ∃ u v, s.Gives host u f.1.1 f.1.2 f.2 v := by
  induction h with
  | nil => cases hf
  | @cons x y z w d ss fs h _ ih =>
    rcases List.mem_cons.mp hf with rfl | hf
    · exact ⟨x, y, h⟩
    · exact ih hf

theorem mem_places {devices : List DeviceKind} {workloads : List Workload} {d : DeviceKind}
    {w : Workload} : (w, d) ∈ places devices workloads ↔ d ∈ devices ∧ w ∈ workloads := by
  simp only [places, List.mem_flatMap, List.mem_map, Prod.mk.injEq]
  constructor
  · rintro ⟨w', hw, d', hd, rfl, rfl⟩
    exact ⟨hd, hw⟩
  · rintro ⟨hd, hw⟩
    exact ⟨w, hw, d, hd, rfl, rfl⟩

/-- The samples of a report come in ascending order. -/
theorem Gives.ascending {w : Workload} {d : DeviceKind} {ss : List Sample}
    (h : s.Gives host x w d ss y) : ss.Pairwise Sample.NotAfter := by
  obtain ⟨_, _, _, hload⟩ := h
  rw [Report.load] at hload
  split at hload
  · cases hload
  · next text _ =>
    obtain ⟨-, -, -, ts, -, rfl⟩ := Report.parse_eq_ok_iff.mp hload
    exact Sample.sort_pairwise ts

/-- A survey that succeeds has samples for the places asked for and for no others, in ascending order, each
from a run of the script of its place. -/
theorem find?_of_survey {devices : List DeviceKind} {workloads : List Workload} {m : Measurements}
    (h : (s.survey host x devices workloads).outcome = .ok m) (d : DeviceKind) (w : Workload) :
    ((m.find? d w).isSome = true ↔ d ∈ devices ∧ w ∈ workloads) ∧
      ∀ ss, m.find? d w = some ss →
        ss.Pairwise Sample.NotAfter ∧ ∃ u v, s.Gives host u w d ss v := by
  rcases s.survey_cases host x devices workloads with
    ⟨fault, _, hr⟩ | ⟨start, _, ⟨fs, y, hvisits, hplaces, hr⟩ | ⟨fs, y, v, c, rest, e, z, _, _, _, hr⟩⟩
  · rw [hr] at h
    cases h
  · rw [hr] at h
    cases h
    have hfind : (collect .empty fs).find? d w = fs.reverse.lookup (w, d) := by
      rw [find?_collect]
      exact Option.or_none
    rw [hfind]
    refine ⟨?_, ?_⟩
    · rw [List.lookup_isSome_iff, ← mem_places, hplaces, List.mem_map]
      exact exists_congr fun f => and_congr List.mem_reverse (beq_iff_eq.trans eq_comm)
    · intro ss hss
      have hmem := List.mem_reverse.mp (mem_of_lookup_eq_some hss)
      obtain ⟨u, v, hgives⟩ := hvisits.gives_of_mem hmem
      exact ⟨hgives.ascending, u, v, hgives⟩
  · rw [hr] at h
    cases h

end Suite

end Benchmark

/-! ### Calibration from a survey -/

theorem Measurements.mem_places {devices : List DeviceKind} {workloads : List Workload}
    {p : DeviceKind × Workload} : p ∈ places devices workloads ↔ p.1 ∈ devices ∧ p.2 ∈ workloads := by
  simp only [places, List.mem_flatMap, List.mem_map]
  constructor
  · rintro ⟨d, hd, w, hw, rfl⟩
    exact ⟨hd, hw⟩
  · rintro ⟨hd, hw⟩
    exact ⟨p.1, hd, p.2, hw, rfl⟩

theorem Curve.extrapolation_cases (ss : List Sample) :
    (2 ≤ ss.length ∧ ∃ forecast, extrapolation ss = .ok forecast) ∨
      (ss.length < 2 ∧ extrapolation ss = .error (.insufficientSamples ss.length)) := by
  by_cases h : 2 ≤ ss.length
  · obtain ⟨c, hfit, _⟩ := fit_of_le h
    refine Or.inl ⟨h, c.predict, ?_⟩
    rw [extrapolation, hfit]
    rfl
  · refine Or.inr ⟨Nat.lt_of_not_le h, ?_⟩
    rw [extrapolation, fit_of_lt (Nat.lt_of_not_le h)]
    rfl

namespace Estimator

/-- Forecasts are made for all places, or there is one that has no samples or whose samples make none. -/
theorem fitAll_cases (extrapolation : Extrapolation) (m : Measurements)
    (places : List (DeviceKind × Workload)) :
    ((∃ forecasts, fitAll extrapolation m places = .ok forecasts) ∧
        ∀ p ∈ places, ∃ ss forecast, m.find? p.1 p.2 = some ss ∧ extrapolation ss = .ok forecast) ∨
      ∃ p ∈ places, ∃ fault, fitAll extrapolation m places = .error fault ∧
        (m.find? p.1 p.2 = none ∨
          ∃ ss, m.find? p.1 p.2 = some ss ∧ extrapolation ss = .error fault) := by
  induction places with
  | nil => exact Or.inl ⟨⟨[], rfl⟩, List.forall_mem_nil _⟩
  | cons p places ih =>
    cases hfound : m.find? p.1 p.2 with
    | none =>
      refine Or.inr ⟨p, List.mem_cons_self, .missingMeasurements p.1.name p.2.name, ?_, Or.inl hfound⟩
      simp only [fitAll, hfound]
    | some ss =>
      cases hfit : extrapolation ss with
      | error fault =>
        refine Or.inr ⟨p, List.mem_cons_self, fault, ?_, Or.inr ⟨ss, hfound, hfit⟩⟩
        simp only [fitAll, hfound, hfit]
      | ok forecast =>
        rcases ih with ⟨⟨forecasts, hrest⟩, hall⟩ | ⟨q, hq, fault, hrest, hwhy⟩
        · refine Or.inl ⟨⟨(p, forecast) :: forecasts, ?_⟩, ?_⟩
          · simp only [fitAll, hfound, hfit, hrest]
          · exact List.forall_mem_cons.mpr ⟨⟨ss, forecast, hfound, hfit⟩, hall⟩
        · refine Or.inr ⟨q, List.mem_cons_of_mem p hq, fault, ?_, hwhy⟩
          simp only [fitAll, hfound, hfit, hrest]

/-- An estimator that draws curves is calibrated by a survey of its own devices and workloads exactly if the
survey succeeds with two samples or more for each of them. Otherwise the error is the one of the survey, or
tells how few samples some place has: a place without any is never the reason. -/
theorem calibrate_survey {σ : Type} (s : Benchmark.Suite) (host : Benchmark.Host σ) (x : σ)
    (e : Estimator) (he : e.extrapolation = Curve.extrapolation) :
    let r := s.survey host x e.devices e.workloads
    ((e.calibrate r.outcome).1 = .ok () ↔ ∃ m, r.outcome = .ok m ∧
        ∀ d ∈ e.devices, ∀ w ∈ e.workloads, ∃ ss, m.find? d w = some ss ∧ 2 ≤ ss.length) ∧
      ∀ fault, (e.calibrate r.outcome).1 = .error fault → r.outcome = .error fault ∨
        ∃ m, r.outcome = .ok m ∧ ∃ d ∈ e.devices, ∃ w ∈ e.workloads, ∃ ss, m.find? d w = some ss ∧
          ss.length < 2 ∧ fault = .insufficientSamples ss.length := by
  intro r
  cases hr : r.outcome with
  | error fault =>
    refine ⟨iff_of_false (fun h => nomatch h) (fun ⟨_, h, _⟩ => nomatch h), fun fault' h => Or.inl ?_⟩
    cases h
    rfl
  | ok m =>
    rcases fitAll_cases e.extrapolation m (Measurements.places e.devices e.workloads) with
      ⟨⟨forecasts, hfit⟩, hall⟩ | ⟨p, hp, fault, hfit, hwhy⟩
    · have hcalibrate : (e.calibrate (.ok m)).1 = .ok () := by
        simp only [calibrate, hfit]
      rw [hcalibrate]
      refine ⟨iff_of_true rfl ⟨m, rfl, fun d hd w hw => ?_⟩, fun fault h => nomatch h⟩
      obtain ⟨ss, forecast, hss, hforecast⟩ := hall (d, w) (Measurements.mem_places.mpr ⟨hd, hw⟩)
      rw [he] at hforecast
      rcases Curve.extrapolation_cases ss with ⟨htwo, _⟩ | ⟨_, hfew⟩
      · exact ⟨ss, hss, htwo⟩
      · rw [hfew] at hforecast
        cases hforecast
    · have hcalibrate : (e.calibrate (.ok m)).1 = .error fault := by
        simp only [calibrate, hfit]
      obtain ⟨hd, hw⟩ := Measurements.mem_places.mp hp
      rcases hwhy with hnone | ⟨ss, hss, hextrapolation⟩
      · -- A survey that succeeds has been at every place.
        have hsome := (Benchmark.Suite.find?_of_survey hr p.1 p.2).1.mpr ⟨hd, hw⟩
        rw [hnone] at hsome
        cases hsome
      · rw [he] at hextrapolation
        rcases Curve.extrapolation_cases ss with ⟨_, forecast, hok⟩ | ⟨hfew, herror⟩
        · rw [hok] at hextrapolation
          cases hextrapolation
        · cases herror.symm.trans hextrapolation
          rw [hcalibrate]
          refine ⟨iff_of_false (fun h => nomatch h) ?_, ?_⟩
          · rintro ⟨m', hm, hall⟩
            cases hm
            obtain ⟨ss', hss', htwo⟩ := hall p.1 hd p.2 hw
            cases hss.symm.trans hss'
            omega
          · intro fault h
            cases h
            exact Or.inr ⟨m, rfl, p.1, hd, p.2, hw, ss, hss, hfew, rfl⟩

end Estimator

end PlanReuse
