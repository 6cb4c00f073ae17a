import PlanReuse.Pool.Key
import PlanReuse.Proofs.Hash.Layout

/-!
# What a key stream says

The bytes that a key is the hash of determine everything the key is made from, with one exception: a text
as context may spell out the layout and the columns of a join table.
-/

namespace PlanReuse

namespace ArtifactKey

/-- Generation, text and device stand first in every stream, whatever the context. -/
theorem stream_inj {c d : PlanCode} {m n : DeviceId} {x y : KeyContext}
    (hc : c.generation ≤ maxWord) (hd : d.generation ≤ maxWord) (h : stream c m x = stream d n y) :
    c.generation = d.generation ∧ c.text = d.text ∧ m = n ∧ x.bytes = y.bytes := by
  simp only [stream, List.append_assoc] at h
  obtain ⟨hgeneration, h⟩ := Hash.word_append_inj hc hd h
  obtain ⟨htext, h⟩ := Hash.terminated_append_inj h
  obtain ⟨hdevice, h⟩ := Hash.word32_append_inj h
  exact ⟨hgeneration, htext, hdevice, h⟩

theorem joinTable_bytes_inj {k l : JoinLayout} {s t : String}
    (h : (KeyContext.joinTable k s).bytes = (KeyContext.joinTable l t).bytes) : k = l ∧ s = t := by
  obtain ⟨hcode, h⟩ := Hash.word_append_inj (by cases k <;> decide) (by cases l <;> decide) h
  have hlayout : k = l := by
    cases k <;> cases l <;> first | rfl | cases hcode
  exact ⟨hlayout, Hash.terminated_injective h⟩

end ArtifactKey

/-! ### Contexts -/

/-- The text whose bytes are those of a layout: its code, and zeros up to the width of a word. -/
def JoinLayout.spelling (k : JoinLayout) : String :=
  String.ofList (Char.ofNat k.code :: List.replicate 7 '\x00')

theorem JoinLayout.word_code (k : JoinLayout) :
    Hash.word k.code = k.spelling.toList.flatMap String.utf8EncodeChar := by
  cases k <;> decide

namespace KeyContext

/-- A text that spells out the layout and the columns of a join table. -/
inductive SpellsOut : KeyContext → KeyContext → Prop
  | intro (k : JoinLayout) (s : String) : SpellsOut (text (k.spelling ++ s)) (joinTable k s)

/-- Contexts of one kind, or any context and the plain one. -/
def Comparable : KeyContext → KeyContext → Prop
  | text _, joinTable .. => False
  | joinTable .., text _ => False
  | _, _ => True

theorem bytes_joinTable (k : JoinLayout) (s : String) :
    (joinTable k s).bytes = (text (k.spelling ++ s)).bytes := by
  simp only [bytes, JoinLayout.word_code, Hash.terminated_append]

theorem text_bytes_eq_joinTable_iff (t : String) (k : JoinLayout) (s : String) :
    (text t).bytes = (joinTable k s).bytes ↔ t = k.spelling ++ s := by
  rw [bytes_joinTable]
  exact ⟨fun h => Hash.terminated_injective h, congrArg Hash.terminated⟩

theorem bytes_plain_ne {x : KeyContext} (h : x ≠ plain) : plain.bytes ≠ x.bytes := by
  intro hbytes
  cases x with
  | plain => exact h rfl
  | text s => exact Hash.terminated_ne_nil s hbytes.symm
  | joinTable k s =>
    rw [bytes_joinTable] at hbytes
    exact Hash.terminated_ne_nil _ hbytes.symm

/-- Two contexts have the same bytes exactly if they are one, or one spells out the other. -/
theorem bytes_eq_iff (x y : KeyContext) :
    x.bytes = y.bytes ↔ x = y ∨ x.SpellsOut y ∨ y.SpellsOut x := by
  constructor
  · intro h
    cases x with
    | plain =>
      by_cases hy : y = plain
      · exact Or.inl hy.symm
      · exact absurd h (bytes_plain_ne hy)
    | text s =>
      cases y with
      | plain => exact absurd h.symm (bytes_plain_ne (by simp))
      | text t => exact Or.inl (congrArg text (Hash.terminated_injective h))
      | joinTable k t =>
        obtain rfl := (text_bytes_eq_joinTable_iff s k t).mp h
        exact Or.inr (Or.inl ⟨k, t⟩)
    | joinTable k s =>
      cases y with
      | plain => exact absurd h.symm (bytes_plain_ne (by simp))
      | text t =>
        obtain rfl := (text_bytes_eq_joinTable_iff t k s).mp h.symm
        exact Or.inr (Or.inr ⟨k, s⟩)
      | joinTable l t =>
        obtain ⟨rfl, rfl⟩ := ArtifactKey.joinTable_bytes_inj h
        exact Or.inl rfl
  · rintro (rfl | h | h)
    · rfl
    · cases h with
      | intro k s => exact (bytes_joinTable k s).symm
    · cases h with
      | intro k s => exact bytes_joinTable k s

theorem Comparable.not_spellsOut {x y : KeyContext} (h : x.Comparable y) :
    ¬ (x.SpellsOut y ∨ y.SpellsOut x) := by
  rintro (hxy | hyx)
  · cases hxy
    exact h
  · cases hyx
    exact h

end KeyContext

/-! ### Streams -/

namespace ArtifactKey

variable {c d : PlanCode} {x y : KeyContext}

/-- Two streams are one exactly if they are made from the same generation, text, device and context, or
from contexts of which one spells out the other. -/
theorem stream_eq_iff (hc : c.generation ≤ maxWord) (hd : d.generation ≤ maxWord) (m n : DeviceId) :
    stream c m x = stream d n y ↔
      c.generation = d.generation ∧ c.text = d.text ∧ m = n ∧
        (x = y ∨ x.SpellsOut y ∨ y.SpellsOut x) := by
  rw [← KeyContext.bytes_eq_iff]
  constructor
  · exact stream_inj hc hd
  · rintro ⟨hgeneration, htext, rfl, hbytes⟩
    simp only [stream, hgeneration, htext, hbytes]

theorem ofPlan?_eq (c : PlanCode) (m : DeviceId) (x : KeyContext) :
    ofPlan? c m x = if c.text = "" then none else some ⟨Hash.sip (stream c m x)⟩ := by
  by_cases h : c.text = "" <;> simp [ofPlan?, PlanCode.isCacheable, h]

/-- A plan has a key exactly if it has a text, and the key is the hash of the stream. Of contexts that can
be compared, two streams are one only if generation, text, device and context are the same. -/
theorem stream_unambiguous (hc : c.generation ≤ maxWord) (hd : d.generation ≤ maxWord)
    (m n : DeviceId) (hxy : x.Comparable y) :
    (stream c m x = stream d n y ↔
        c.generation = d.generation ∧ c.text = d.text ∧ m = n ∧ x = y) ∧
      ofPlan? c m x = if c.text = "" then none else some ⟨Hash.sip (stream c m x)⟩ := by
  refine ⟨?_, ofPlan?_eq c m x⟩
  rw [stream_eq_iff hc hd, or_iff_left hxy.not_spellsOut]

/- All bytes of the generation and of the device are the one that ends a text, and the stream of the empty
text is that of no context with this byte behind it. -/
theorem stream_unambiguous_with_end_bytes :
    let c : PlanCode := { PlanCode.ofNumbers ⟨[0, 1], 0⟩ with generation := maxWord }
    (c.generation ≤ maxWord ∧ KeyContext.plain.Comparable (.text "")) ∧
      stream c (-1) (.text "") = stream c (-1) .plain ++ [0xff] ∧
      stream c (-1) .plain ≠ stream c (-1) (.text "") ∧
      ofPlan? c (-1) .plain = some ⟨Hash.sip (stream c (-1) .plain)⟩ := by
  intro c
  have hc : c.generation ≤ maxWord := Nat.le_refl _
  have hxy : KeyContext.plain.Comparable (.text "") := trivial
  obtain ⟨hstream, hkey⟩ := stream_unambiguous hc hc (-1) (-1) hxy
  have htext : c.text ≠ "" := by decide +kernel +revert
  have hne : stream c (-1) .plain ≠ stream c (-1) (.text "") := by
    intro h
    cases (hstream.mp h).2.2.2
  rw [if_neg htext] at hkey
  exact ⟨⟨hc, hxy⟩, by decide +kernel +revert, hne, hkey⟩

end ArtifactKey

end PlanReuse
