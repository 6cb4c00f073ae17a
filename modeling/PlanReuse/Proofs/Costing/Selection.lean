import PlanReuse.Proofs.Costing.Decisions
import PlanReuse.Proofs.Costing.Neighbours

/-!
# Selecting a device

Devices are gone through in their order, and one takes the lead only with a time that is less. So the first
of the fastest wins, unless the first device of all has a time that is no number: nothing is less than that,
and it keeps the lead, whatever the others take.
-/

namespace PlanReuse

/-! ### The order of numbers -/

namespace Binary64

theorem less_iff {x y : Binary64} :
    x.less y = true ↔ x.isNaN = false ∧ y.isNaN = false ∧ x.place < y.place := by
  simp only [less, Bool.and_eq_true, Bool.not_eq_true', decide_eq_true_eq, and_assoc]

/-- No number, or one that is not less. -/
def NotBelow (x y : Binary64) : Prop :=
  x.isNaN = false → y.isNaN = false ∧ y.place ≤ x.place

/-- No number, or one that is greater. -/
def Above (x y : Binary64) : Prop :=
  x.isNaN = false → y.isNaN = false ∧ y.place < x.place

theorem notBelow_self (x : Binary64) : x.NotBelow x := fun h => ⟨h, Int.le_refl _⟩

theorem NotBelow.trans {x y z : Binary64} (hxy : x.NotBelow y) (hyz : y.NotBelow z) : x.NotBelow z := by
  intro hx
  obtain ⟨hy, hle⟩ := hxy hx
  obtain ⟨hz, hle'⟩ := hyz hy
  exact ⟨hz, Int.le_trans hle' hle⟩

theorem NotBelow.above {x y z : Binary64} (hxy : x.NotBelow y) (hyz : y.Above z) : x.Above z := by
  intro hx
  obtain ⟨hy, hle⟩ := hxy hx
  obtain ⟨hz, hlt⟩ := hyz hy
  exact ⟨hz, Int.lt_of_lt_of_le hlt hle⟩

theorem above_of_less {x y z : Binary64} (hyx : y.less x = true) (hyz : y.NotBelow z) : x.Above z := by
  intro _
  obtain ⟨hy, _, hlt⟩ := less_iff.mp hyx
  obtain ⟨hz, hle⟩ := hyz hy
  exact ⟨hz, Int.lt_of_le_of_lt hle hlt⟩

theorem notBelow_of_not_less {x y : Binary64} (hy : y.isNaN = false) (h : ¬ x.less y = true) :
    x.NotBelow y := by
  intro hx
  refine ⟨hy, Int.not_lt.mp fun hlt => h ?_⟩
  exact less_iff.mpr ⟨hx, hy, hlt⟩

end Binary64

namespace Estimator

/-! ### The fastest -/

/-- The first of the fastest devices in a list: those in front of it are slower or without a number, those
behind it are not faster. -/
def Fastest (time : DeviceKind → Binary64) (ds : List DeviceKind) (d : DeviceKind) : Prop :=
  ∃ front back, ds = front ++ d :: back ∧
    (∀ c ∈ front, (time c).Above (time d)) ∧ ∀ c ∈ back, (time c).NotBelow (time d)

section Fastest

variable {time : DeviceKind → Binary64} {ds : List DeviceKind} {b c d : DeviceKind}

theorem Fastest.notBelow (h : Fastest time ds d) (hc : c ∈ ds) : (time c).NotBelow (time d) := by
  obtain ⟨front, back, rfl, hfront, hback⟩ := h
  rcases List.mem_append.mp hc with hc | hc
  · exact fun hnumber => ⟨(hfront c hc hnumber).1, Int.le_of_lt (hfront c hc hnumber).2⟩
  · rcases List.mem_cons.mp hc with rfl | hc
    · exact (time c).notBelow_self
    · exact hback c hc

/-- A device that has lost the lead is slower than the winner. -/
theorem Fastest.cons (h : Fastest time (c :: ds) d) (hless : (time c).less (time b) = true) :
    Fastest time (b :: c :: ds) d := by
  have hbelow := h.notBelow List.mem_cons_self
  obtain ⟨front, back, hds, hfront, hback⟩ := h
  refine ⟨b :: front, back, by rw [hds]; rfl, ?_, hback⟩
  intro a ha
  rcases List.mem_cons.mp ha with rfl | ha
  · exact Binary64.above_of_less hless hbelow
  · exact hfront a ha

/-- A device that does not take the lead changes nothing. -/
theorem Fastest.insert (h : Fastest time (b :: ds) d) (hnot : (time c).NotBelow (time b)) :
    Fastest time (b :: c :: ds) d := by
  obtain ⟨front, back, hds, hfront, hback⟩ := h
  cases front with
  | nil =>
    obtain ⟨rfl, rfl⟩ := List.cons.inj hds
    refine ⟨[], c :: ds, rfl, fun a ha => (nomatch ha), ?_⟩
    intro a ha
    rcases List.mem_cons.mp ha with rfl | ha
    · exact hnot
    · exact hback a ha
  | cons a front =>
    obtain ⟨rfl, rfl⟩ := List.cons.inj hds
    have hb : (time b).Above (time d) := hfront b List.mem_cons_self
    refine ⟨b :: c :: front, back, rfl, ?_, hback⟩
    intro a ha
    rcases List.mem_cons.mp ha with rfl | ha
    · exact hb
    · rcases List.mem_cons.mp ha with rfl | ha
      · exact hnot.above hb
      · exact hfront a (List.mem_cons_of_mem _ ha)

end Fastest

/-! ### The loop -/

section

variable {e : Estimator} {w : Workload} {size : Nat} {time : DeviceKind → Binary64}

/-- From a lead that is a number the loop ends with the fastest; one that is no number is never lost. -/
theorem leastFrom_of_lead {ds : List DeviceKind} (b : DeviceKind) (count : Nat)
    (htime : ∀ c ∈ ds, e.predictTime c w size = .ok (time c)) :
    ∃ d, (e.leastFrom w size (some (b, time b)) count ds).1 = .ok (some (d, time d)) ∧
      ((time b).isNaN = true → d = b) ∧ ((time b).isNaN = false → Fastest time (b :: ds) d) := by
  induction ds generalizing b count with
  | nil =>
    refine ⟨b, rfl, fun _ => rfl, fun _ => ?_⟩
    exact ⟨[], [], rfl, fun a ha => (nomatch ha), fun a ha => (nomatch ha)⟩
  | cons c ds ih =>
    have hrest : ∀ a ∈ ds, e.predictTime a w size = .ok (time a) :=
      fun a ha => htime a (List.mem_cons_of_mem c ha)
    simp only [leastFrom, htime c List.mem_cons_self]
    by_cases hless : (time c).less (time b) = true
    · -- Both are numbers, and the lead passes on.
      obtain ⟨hc, hb, _⟩ := Binary64.less_iff.mp hless
      obtain ⟨d, hd, _, hfastest⟩ := ih c (count + 1) hrest
      rw [if_pos hless]
      refine ⟨d, hd, fun hnan => ?_, fun _ => (hfastest hc).cons hless⟩
      rw [hb] at hnan
      cases hnan
    · obtain ⟨d, hd, hkept, hfastest⟩ := ih b (count + 1) hrest
      rw [if_neg hless]
      refine ⟨d, hd, hkept, fun hb => (hfastest hb).insert ?_⟩
      exact Binary64.notBelow_of_not_less hb hless

theorem verdict_of_times {first : DeviceKind} {rest : List DeviceKind} (hdevices : e.devices = first :: rest)
    (htime : ∀ d ∈ e.devices, e.predictTime d w size = .ok (time d)) :
    ∃ d, e.verdict w size = .ok (.all d) ∧ ((time first).isNaN = true → d = first) ∧
      ((time first).isNaN = false → Fastest time e.devices d) := by
  rw [hdevices] at htime ⊢
  obtain ⟨d, hd, hkept, hfastest⟩ := leastFrom_of_lead (e := e) first 1
    (fun c hc => htime c (List.mem_cons_of_mem first hc))
  refine ⟨d, ?_, hkept, hfastest⟩
  rw [verdict, hdevices]
  simp only [leastFrom, htime first List.mem_cons_self, if_true, hd]

end

theorem outcome_predict_of_new {e : Estimator} {code : PlanCode} {w : Workload} {size : Nat}
    (hnew : ∀ key, keyOf? code w size = some key → e.decisions.lookup key = none) :
    (e.predict code w size).1.outcome = e.verdict w size := by
  rcases e.predict_cases code w size with ⟨_, houtcome, _⟩ | ⟨key, p, hkey, hfound, _, _⟩ |
    ⟨_, _, _, houtcome, _⟩
  · exact houtcome
  · rw [hnew key hkey] at hfound
    cases hfound
  · exact houtcome

/-- Where every listed device has a predicted time and no decision is remembered, one of the devices is
chosen. It is the first of the fastest exactly if the first device in the list has a number for its time, or
none has one. A first device without a number is chosen whatever the times of the others. -/
theorem fastest_iff_first_has_number (e : Estimator) (code : PlanCode) {w : Workload} {size : Nat}
    {time : DeviceKind → Binary64} {first : DeviceKind} {rest : List DeviceKind}
    (hdevices : e.devices = first :: rest)
    (htime : ∀ d ∈ e.devices, e.predictTime d w size = .ok (time d))
    (hnew : ∀ key, keyOf? code w size = some key → e.decisions.lookup key = none) :
    ∃ d, (e.predict code w size).1.outcome = .ok (.all d) ∧
      (Fastest time e.devices d ↔
        (time first).isNaN = false ∨ ∀ c ∈ e.devices, (time c).isNaN = true) ∧
      ((time first).isNaN = true → d = first) := by
  obtain ⟨d, hd, hkept, hfastest⟩ := verdict_of_times hdevices htime
  refine ⟨d, (outcome_predict_of_new hnew).trans hd, ⟨fun h => ?_, fun h => ?_⟩, hkept⟩
  · cases hfirst : (time first).isNaN with
    | false => exact Or.inl rfl
    | true =>
      obtain rfl := hkept hfirst
      refine Or.inr fun c hc => ?_
      by_contra hnumber
      have hd := (h.notBelow hc (Bool.eq_false_iff.mpr hnumber)).1
      rw [hd] at hfirst
      cases hfirst
  · obtain hfirst | hnone := h
    · exact hfastest hfirst
    · obtain rfl := hkept (hnone first (hdevices ▸ List.mem_cons_self))
      refine ⟨[], rest, hdevices, fun c hc => (nomatch hc), fun c hc hnumber => ?_⟩
      rw [hnone c (hdevices ▸ List.mem_cons_of_mem d hc)] at hnumber
      cases hnumber

/- The graphics card is listed twice, around a processor without a number for its time. -/
theorem fastest_iff_first_has_number_of_repeated_device :
    let time : DeviceKind → Binary64
      | .cpu => .nan
      | .gpu => .ofNat 5
    let e : Estimator :=
      { (new 2).withDevices [.gpu, .cpu, .gpu] with
        forecasts := [((.cpu, .scan), fun _ => time .cpu), ((.gpu, .scan), fun _ => time .gpu)] }
    let plan : PlanCode := .ofNumbers ⟨[0], 0⟩
    (∀ d ∈ e.devices, e.predictTime d .scan 1 = .ok (time d)) ∧ (time .gpu).isNaN = false ∧
      ∃ d, (e.predict plan .scan 1).1.outcome = .ok (.all d) ∧ Fastest time e.devices d := by
  intro time e plan
  have htime : ∀ d ∈ e.devices, e.predictTime d .scan 1 = .ok (time d) := by
    intro d _
    cases d <;> rfl
  have hnumber : (time .gpu).isNaN = false := by decide +kernel
  obtain ⟨d, hd, hiff, -⟩ := fastest_iff_first_has_number e plan rfl htime (fun _ _ => rfl)
  exact ⟨htime, hnumber, d, hd, hiff.mpr (Or.inl hnumber)⟩

/-! ### A first device without a number -/

theorem fitAll_cons {extrapolation : Extrapolation} {m : Measurements} {d : DeviceKind} {w : Workload}
    {ss : List Sample} {forecast : Forecast} {places : List (DeviceKind × Workload)}
    {forecasts : List ((DeviceKind × Workload) × Forecast)} (hss : m.find? d w = some ss)
    (hforecast : extrapolation ss = .ok forecast) (hrest : fitAll extrapolation m places = .ok forecasts) :
    fitAll extrapolation m ((d, w) :: places) = .ok (((d, w), forecast) :: forecasts) := by
  simp only [fitAll, hss, hforecast, hrest]

theorem calibrate_of_fitAll {e : Estimator} {m : Measurements}
    {forecasts : List ((DeviceKind × Workload) × Forecast)}
    (h : fitAll e.extrapolation m (Measurements.places e.devices e.workloads) = .ok forecasts) :
    e.calibrate (.ok m) = (.ok (), { e with forecasts, decisions := [] }) := by
  simp only [calibrate, h]

/- The samples of the processor are no numbers, which samples may be. It is listed first, and chosen although
the graphics card takes five milliseconds. -/
theorem chosen_without_number :
    let m := (Measurements.empty.insert .cpu .scan [⟨1, .nan⟩, ⟨2, .nan⟩]).insert .gpu .scan
      [⟨1, .ofNat 5⟩, ⟨2, .ofNat 5⟩]
    let plan : PlanCode := .ofNumbers ⟨[0], 0⟩
    let e := (((new 2).withWorkloads [.scan]).calibrate (.ok m)).2
    ∃ time : DeviceKind → Binary64, (∀ d ∈ e.devices, e.predictTime d .scan 1 = .ok (time d)) ∧
      (time .cpu).isNaN = true ∧ time .gpu = .ofNat 5 ∧ e.decisions = [] ∧
      (e.predict plan .scan 1).1.outcome = .ok (.all .cpu) ∧ ¬ Fastest time e.devices .cpu := by
  intro m plan e
  let cpu : Curve := ⟨[⟨1, .nan⟩, ⟨2, .nan⟩], by decide⟩
  let gpu : Curve := ⟨[⟨1, .ofNat 5⟩, ⟨2, .ofNat 5⟩], by decide⟩
  have hcpu : Curve.extrapolation cpu.samples = .ok cpu.predict :=
    Curve.extrapolation_of_ascending (by decide) cpu.two_le
  have hgpu : Curve.extrapolation gpu.samples = .ok gpu.predict :=
    Curve.extrapolation_of_ascending (by decide) gpu.two_le
  have hfit : fitAll Curve.extrapolation m (Measurements.places DeviceKind.all [.scan]) =
      .ok [((.cpu, .scan), cpu.predict), ((.gpu, .scan), gpu.predict)] :=
    fitAll_cons rfl hcpu (fitAll_cons rfl hgpu rfl)
  have he : e = { (new 2).withWorkloads [.scan] with
      forecasts := [((.cpu, .scan), cpu.predict), ((.gpu, .scan), gpu.predict)] } := by
    show (calibrate _ (.ok m)).2 = _
    rw [calibrate_of_fitAll (e := (new 2).withWorkloads [.scan]) hfit]
    rfl
  let time : DeviceKind → Binary64
    | .cpu => cpu.predict 1
    | .gpu => gpu.predict 1
  rw [he]
  have hcputime : (time .cpu).isNaN = true := by decide +kernel
  have hgputime : time .gpu = .ofNat 5 := by decide +kernel
  refine ⟨time, ?_, hcputime, hgputime, rfl, ?_, ?_⟩
  · intro d _
    cases d <;> rfl
  · decide +kernel
  · intro hfastest
    have hnumber : (time .gpu).isNaN = false := by decide +kernel
    have hnone := (hfastest.notBelow (c := .gpu) (by decide) hnumber).1
    rw [hcputime] at hnone
    cases hnone

end Estimator

end PlanReuse
