import PlanReuse.Device
import PlanReuse.Failure
import PlanReuse.Number.Binary64

/-!
# Samples

A sample is a measured time for a size of data. Samples are ordered by size, and samples of one size by
time in the total order of doubles, so that sorting a list of samples has one outcome.
-/

namespace PlanReuse

/-- The workloads that costs are measured for. -/
inductive Workload
  | groupBy
  | join
  | scan
  | reduce
deriving DecidableEq

namespace Workload

/-- Every workload, in order. -/
def all : List Workload := [groupBy, join, scan, reduce]

def name : Workload → String
  | groupBy => "GroupBy"
  | join => "Join"
  | scan => "Scan"
  | reduce => "Reduce"

end Workload

structure Sample where
  /-- Bytes of data. -/
  size : Nat
  /-- Milliseconds. -/
  time : Binary64
deriving DecidableEq

namespace Sample

def order (s t : Sample) : Ordering :=
  (compare s.size t.size).then (compare s.time.rank t.time.rank)

def le (s t : Sample) : Bool := (s.order t).isLE

/-- The samples in ascending order. -/
def sort (ss : List Sample) : List Sample := ss.mergeSort le

/-- Samples of one place in the order are one sample. -/
theorem order_eq_eq_iff (s t : Sample) : s.order t = .eq ↔ s = t := by
  obtain ⟨n, x⟩ := s
  obtain ⟨m, y⟩ := t
  simp only [order, Ordering.then_eq_eq, Nat.compare_eq_eq, Sample.mk.injEq]
  exact ⟨fun h => ⟨h.1, Binary64.rank_injective h.2⟩, fun h => ⟨h.1, congrArg _ h.2⟩⟩

end Sample

/-! ### Measurements -/

/-- Samples by kind of device and workload. -/
structure Measurements where
  table : List ((DeviceKind × Workload) × List Sample)

namespace Measurements

def empty : Measurements := ⟨[]⟩

def find? (m : Measurements) (d : DeviceKind) (w : Workload) : Option (List Sample) :=
  m.table.lookup (d, w)

def insert (m : Measurements) (d : DeviceKind) (w : Workload) (ss : List Sample) : Measurements :=
  ⟨((d, w), ss) :: m.table.filter (·.1 ≠ (d, w))⟩

/-- All samples, in the order of devices and workloads. -/
def toList (m : Measurements) : List (DeviceKind × Workload × List Sample) :=
  DeviceKind.all.flatMap fun d => Workload.all.filterMap fun w => (m.find? d w).map fun ss => (d, w, ss)

/-- Adds samples in ascending order. -/
def insertSorted (m : Measurements) (d : DeviceKind) (w : Workload) (ss : List Sample) : Measurements :=
  m.insert d w (Sample.sort ss)

/-- The pairs of some devices and workloads, device by device. -/
def places (devices : List DeviceKind) (workloads : List Workload) : List (DeviceKind × Workload) :=
  devices.flatMap fun d => workloads.map fun w => (d, w)

/-- The samples of some devices and workloads; the first pair that has none is an error. -/
def restrict (m : Measurements) (devices : List DeviceKind) (workloads : List Workload) :
    Except CostError Measurements :=
  let add (acc : Measurements) (place : DeviceKind × Workload) : Except CostError Measurements :=
    match m.find? place.1 place.2 with
    | some ss => .ok (acc.insert place.1 place.2 ss)
    | none => .error (.missingMeasurements place.1.name place.2.name)
  (places devices workloads).foldlM add empty

/-- The samples of some devices and workloads, as far as there are any. -/
def restrictLenient (m : Measurements) (devices : List DeviceKind) (workloads : List Workload) :
    Measurements :=
  ⟨m.table.filter fun e => devices.contains e.1.1 && workloads.contains e.1.2⟩

end Measurements

end PlanReuse
