import PlanReuse.Proofs.Pool.Conservation
import PlanReuse.Proofs.Pool.Retention

/-!
# Building what is missing

A request looks up, and it builds exactly if it finds nothing. Between the look-up and the insertion the
builder may do anything with the pool; a builder that fails leaves the pool as it has made it. Whatever a
request reports as retained is under its key from then on, until the pool lets go of what is there.
-/

namespace PlanReuse

variable {α : Type}

/-- The record of the entry is that of a key at an address. -/
structure Entry.IsAt (e : Entry α) (key : ArtifactKey) (a : Address) : Prop where
  key : e.usage.key = key
  artifactClass : e.usage.artifactClass = a.artifactClass
  device : e.usage.device = a.device

namespace Pool

/-! ### Looking up -/

theorem Sound.contains_iff {p : Pool α} (hp : p.Sound) {key : ArtifactKey} {a : Address} :
    p.contains key a = true ↔ ∃ e ∈ p.entries, e.IsAt key a := by
  rw [contains, Partition.holds, Option.isSome_iff_exists]
  constructor
  · rintro ⟨e, he⟩
    obtain ⟨hmem, hkey⟩ := Partition.mem_of_find? he
    obtain ⟨hclass, hdevice⟩ := hp.placed a e hmem
    exact ⟨e, hp.mem_entries.mpr ⟨a, hmem⟩, hkey, hclass, hdevice⟩
  · rintro ⟨e, he, hkey, hclass, hdevice⟩
    obtain ⟨b, hb⟩ := hp.mem_entries.mp he
    obtain ⟨hclass', hdevice'⟩ := hp.placed b e hb
    have hab : b = a := by
      cases b
      cases a
      exact congrArg₂ Address.mk (hclass'.symm.trans hclass) (hdevice'.symm.trans hdevice)
    exact ⟨e, (hp.partition a).find?_eq_some_iff.mpr ⟨hab ▸ hb, hkey⟩⟩

theorem Sound.getOrBuild {ε : Type} {p : Pool α} (hp : p.Sound) (key : ArtifactKey) (a : Address)
    (size : α → Nat) {build : Pool α → Except ε α × Pool α} (hbuild : ∀ q, q.Sound → (build q).2.Sound) :
    (p.getOrBuild key a size build).2.Sound := by
  have hlooked := hp.change (.get key a)
  rw [Pool.change] at hlooked
  rw [Pool.getOrBuild]
  rcases hget : p.get key a with ⟨_ | handle, q⟩ <;> rw [hget] at hlooked
  · have hbuilt := hbuild q hlooked
    rcases hout : build q with ⟨err | item, r⟩ <;> rw [hout] at hbuilt <;> simp only [hout]
    · exact hbuilt
    · exact hbuilt.change (.put key a item (size item))
  · exact hlooked

end Pool

end PlanReuse
