import PlanReuse.Device
import PlanReuse.Hash.Sip
import PlanReuse.Hash.Stream
import PlanReuse.Numbering.Extraction

/-!
# Artifact keys

The key of an artifact is a hash of all that it depends on: the generation and the text of a plan code,
the device, and what else tells artifacts of one plan apart. A plan without a code has no key.
-/

namespace PlanReuse

structure ArtifactKey where
  value : UInt64
deriving DecidableEq

/-- The sixteen hexadecimal digits of a key. -/
def ArtifactKey.text (k : ArtifactKey) : String := String.ofList (Text.hexPadded 16 k.value.toNat)

/-- How a join table lays out its rows. -/
inductive JoinLayout
  /-- At most one row for each join key. -/
  | oneToOne
  /-- Any number of rows for a join key. -/
  | oneToMany
deriving DecidableEq

namespace JoinLayout

def name : JoinLayout → String
  | oneToOne => "OneToOne"
  | oneToMany => "OneToMany"

/-- The code by which a layout enters a key. -/
def code : JoinLayout → Nat
  | oneToOne => 0
  | oneToMany => 1

end JoinLayout

/-- What a key depends on besides the plan and the device. -/
inductive KeyContext
  | plain
  | text (s : String)
  /-- A join table: its layout and the columns it joins. -/
  | joinTable (layout : JoinLayout) (columns : String)
deriving DecidableEq

namespace KeyContext

def bytes : KeyContext → List UInt8
  | plain => []
  | text s => Hash.terminated s
  | joinTable layout columns => Hash.word layout.code ++ Hash.terminated columns

end KeyContext

namespace ArtifactKey

/-- The bytes that a key is the hash of. -/
def stream (code : PlanCode) (device : DeviceId) (context : KeyContext) : List UInt8 :=
  Hash.word code.generation ++ Hash.terminated code.text ++ Hash.word32 device ++ context.bytes

/-- The key under which an artifact of a plan is kept. -/
def ofPlan? (code : PlanCode) (device : DeviceId) (context : KeyContext) : Option ArtifactKey :=
  if code.isCacheable then some ⟨Hash.sip (stream code device context)⟩ else none

theorem ofPlan?_eq_none_iff (code : PlanCode) (device : DeviceId) (context : KeyContext) :
    ofPlan? code device context = none ↔ code.isCacheable = false := by
  simp [ofPlan?]

end ArtifactKey

end PlanReuse
