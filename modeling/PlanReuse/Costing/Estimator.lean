import PlanReuse.Costing.Curve
import PlanReuse.Costing.Placement
import PlanReuse.Log
import PlanReuse.Number.Shortest
import PlanReuse.Numbering.Extraction

/-!
# Estimator

The estimator makes a forecast for each device and workload and places a plan on the device with the
least predicted time. Decisions on plans with a code are remembered, the least recently used one being
forgotten first. A calibration that succeeds replaces all forecasts and forgets all decisions; one that
fails changes nothing.
-/

namespace PlanReuse

/-- What a decision depends on. -/
structure DecisionKey where
  generation : Nat
  plan : String
  workload : Workload
  size : Nat
deriving DecidableEq

structure Estimator where
  extrapolation : Extrapolation
  devices : List DeviceKind
  workloads : List Workload
  forecasts : List ((DeviceKind × Workload) × Forecast)
  /-- How many decisions are remembered at most. -/
  capacity : Nat
  /-- The remembered decisions, the most recently used first. -/
  decisions : List (DecisionKey × Placement)

/-- The answer to a question for a placement. -/
structure Advice where
  outcome : Except CostError Placement
  /-- How many forecasts were evaluated. -/
  evaluations : Nat
  /-- The least time, if times were compared. -/
  time : Option Binary64

namespace Estimator

/-- An estimator for all devices and workloads. At least one decision can be remembered. -/
def new (capacity : Nat) (extrapolation : Extrapolation := Curve.extrapolation) : Estimator :=
  { extrapolation, devices := DeviceKind.all, workloads := Workload.all, forecasts := [],
    capacity := max capacity 1, decisions := [] }

/-- The greatest capacity that can be asked for. Room for all decisions is set aside beforehand, 17 bytes
for each of the next power of two slots above eight sevenths of the capacity, and no more than half of a
64-bit address space can be had. -/
def capacityLimit : Nat := 7 * Nat.pow 2 55

/-- An estimator for all devices and workloads, if there can be room for its decisions. -/
def create? (capacity : Nat) : Option Estimator :=
  if capacity ≤ capacityLimit then some (new capacity) else none

/-- Only these devices are calibrated and chosen from. -/
def withDevices (e : Estimator) (devices : List DeviceKind) : Estimator := { e with devices }

/-- Only these workloads are calibrated. -/
def withWorkloads (e : Estimator) (workloads : List Workload) : Estimator := { e with workloads }

def isCalibrated (e : Estimator) : Bool := !e.forecasts.isEmpty

/-! ### Calibration -/

/-- Makes a forecast at each place in turn. -/
def fitAll (extrapolation : Extrapolation) (m : Measurements) :
    List (DeviceKind × Workload) → Except CostError (List ((DeviceKind × Workload) × Forecast))
  | [] => .ok []
  | (d, w) :: places =>
    match m.find? d w with
    | none => .error (.missingMeasurements d.name w.name)
    | some ss =>
      match extrapolation ss with
      | .error e => .error e
      | .ok forecast =>
        match fitAll extrapolation m places with
        | .error e => .error e
        | .ok forecasts => .ok (((d, w), forecast) :: forecasts)

/-- Calibrates with what the source of measurements has answered. -/
def calibrate (e : Estimator) (answer : Except CostError Measurements) :
    Except CostError Unit × Estimator :=
  match answer with
  | .error fault => (.error fault, e)
  | .ok m =>
    match fitAll e.extrapolation m (Measurements.places e.devices e.workloads) with
    | .error fault => (.error fault, e)
    | .ok forecasts => (.ok (), { e with forecasts, decisions := [] })

/-! ### Prediction -/

/-- The predicted time on a device. -/
def predictTime (e : Estimator) (d : DeviceKind) (w : Workload) (size : Nat) :
    Except CostError Binary64 :=
  if e.isCalibrated then
    match e.forecasts.lookup (d, w) with
    | some forecast => .ok (forecast size)
    | none => .error (.missingMeasurements d.name w.name)
  else .error .notCalibrated

/-- The running least of predicted times: a device takes the lead if its time is less than the time in
the lead. Also counts the forecasts evaluated. -/
def leastFrom (e : Estimator) (w : Workload) (size : Nat) :
    Option (DeviceKind × Binary64) → Nat → List DeviceKind →
      Except CostError (Option (DeviceKind × Binary64)) × Nat
  | lead, count, [] => (.ok lead, count)
  | lead, count, d :: ds =>
    match e.predictTime d w size with
    | .error fault => (.error fault, count)
    | .ok time =>
      let ahead := match lead with
        | none => true
        | some (_, least) => time.less least
      leastFrom e w size (if ahead then some (d, time) else lead) (count + 1) ds

/-! ### Remembered decisions -/

/-- Moves a remembered decision to the front. -/
def reuse? (e : Estimator) (key : DecisionKey) : Option (Placement × Estimator) :=
  (e.decisions.lookup key).map fun p =>
    (p, { e with decisions := (key, p) :: e.decisions.filter (·.1 ≠ key) })

/-- Remembers a decision in front of all others; the last one goes if there are too many. -/
def remember (e : Estimator) (key : DecisionKey) (p : Placement) : Estimator :=
  { e with decisions := ((key, p) :: e.decisions.filter (·.1 ≠ key)).take e.capacity }

/-- The key of a decision; a plan without a code has none. -/
def keyOf? (code : PlanCode) (w : Workload) (size : Nat) : Option DecisionKey :=
  if code.isCacheable then some ⟨code.generation, code.text, w, size⟩ else none

/-- Decides anew, and remembers the decision if it has a key. -/
def decideAnew (e : Estimator) (key : Option DecisionKey) (w : Workload) (size : Nat) :
    Advice × Estimator :=
  match e.leastFrom w size none 0 e.devices with
  | (.error fault, count) => (⟨.error fault, count, none⟩, e)
  | (.ok none, count) => (⟨.error .notCalibrated, count, none⟩, e)
  | (.ok (some (d, time)), count) =>
    (⟨.ok (.all d), count, some time⟩,
      match key with
      | some k => e.remember k (.all d)
      | none => e)

/-- The placement of a plan on data of a given size. -/
def predict (e : Estimator) (code : PlanCode) (w : Workload) (size : Nat) : Advice × Estimator :=
  match keyOf? code w size with
  | none => e.decideAnew none w size
  | some key =>
    match e.reuse? key with
    | some (p, e) => (⟨.ok p, 0, none⟩, e)
    | none => e.decideAnew (some key) w size

/-! ### Lines of the log -/

/-- What a calibration says, given the name of its source: nothing if it failed. -/
def calibrateLines (e : Estimator) (source : String) (outcome : Except CostError Unit) : List Log.Line :=
  match outcome with
  | .error _ => []
  | .ok () =>
    [Log.info ("代价模型已由 " ++ source ++ " 校准：" ++ toString e.devices.length ++ " 个设备，" ++
      toString e.workloads.length ++ " 个模板")]

/-- What a prediction says: the least time, in milliseconds with three places. -/
def adviceLines (w : Workload) (size : Nat) (a : Advice) : List Log.Line :=
  match a.outcome, a.time with
  | .ok p, some time =>
    [Log.debug (w.name ++ " 规模 " ++ toString size ++ " 预测耗时 " ++
      String.ofList (Decimal.fixed 3 time) ++ "ms，选择 " ++ p.text)]
  | _, _ => []

end Estimator

end PlanReuse
