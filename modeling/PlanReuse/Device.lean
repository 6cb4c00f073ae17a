/-!
# Devices

The processor is one logical device; graphics cards are numbered from one.
-/

namespace PlanReuse

/-- The kind of a device. -/
inductive DeviceKind
  | cpu
  | gpu
deriving DecidableEq

/-- The number of a device, as the executor knows it. -/
abbrev DeviceId := Int32

namespace DeviceKind

/-- Every kind, in order. -/
def all : List DeviceKind := [cpu, gpu]

/-- The name that benchmark scripts and messages use. -/
def name : DeviceKind → String
  | cpu => "cpu"
  | gpu => "gpu"

end DeviceKind

namespace DeviceId

/-- The processor's number. -/
def cpu : DeviceId := 0

/-- The number of the graphics card in a given slot. -/
def gpu (slot : UInt32) : DeviceId := cpu + 1 + slot.toInt32

/-- Every device but the processor is a graphics card. -/
def kind (device : DeviceId) : DeviceKind := if device = cpu then .cpu else .gpu

end DeviceId

/-- A device is of the processor's kind exactly if it has the processor's number. -/
theorem DeviceId.kind_eq_cpu_iff (device : DeviceId) : device.kind = .cpu ↔ device = DeviceId.cpu := by
  unfold DeviceId.kind
  split <;> simp_all

end PlanReuse
