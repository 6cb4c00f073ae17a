import Mathlib.Data.Nat.ModEq
import PlanReuse.Hash.Stream
import PlanReuse.Number.Word
import PlanReuse.Proofs.Text.Boundary

/-!
# Reading byte streams back

A word has as many bytes as its width, and the byte that ends a text is none of the text's own. So a
stream that begins with a word or a text determines it and the rest of the stream.
-/

namespace PlanReuse.Hash

/-! ### Words -/

theorem littleEndian_inj {width m n : Nat} (h : littleEndian width m = littleEndian width n) :
    m % 256 ^ width = n % 256 ^ width := by
  induction width generalizing m n with
  | zero => rw [Nat.pow_zero, Nat.mod_one, Nat.mod_one]
  | succ width ih =>
    obtain ⟨hlow, hrest⟩ := List.cons.inj h
    have hbyte : m % 256 = n % 256 := by
      have hnat := congrArg UInt8.toNat hlow
      simpa using hnat
    rw [Nat.pow_succ', Nat.mod_mul, Nat.mod_mul, hbyte, ih hrest]

theorem littleEndian_append_inj {width m n : Nat} {s t : List UInt8}
    (h : littleEndian width m ++ s = littleEndian width n ++ t) :
    m % 256 ^ width = n % 256 ^ width ∧ s = t := by
  have hlength : (littleEndian width m).length = (littleEndian width n).length := by
    rw [length_littleEndian, length_littleEndian]
  obtain ⟨hmn, hst⟩ := List.append_inj h hlength
  exact ⟨littleEndian_inj hmn, hst⟩

theorem word_append_inj {m n : Nat} (hm : m ≤ maxWord) (hn : n ≤ maxWord) {s t : List UInt8}
    (h : word m ++ s = word n ++ t) : m = n ∧ s = t := by
  obtain ⟨hmn, hst⟩ := littleEndian_append_inj h
  have hwidth : 256 ^ 8 = maxWord + 1 := by decide
  rw [hwidth, Nat.mod_eq_of_lt (Nat.lt_succ_of_le hm), Nat.mod_eq_of_lt (Nat.lt_succ_of_le hn)] at hmn
  exact ⟨hmn, hst⟩

theorem toUInt32_injective {m n : Int32} (h : m.toUInt32 = n.toUInt32) : m = n := by
  cases m
  cases n
  exact congrArg Int32.ofUInt32 h

theorem word32_append_inj {m n : Int32} {s t : List UInt8} (h : word32 m ++ s = word32 n ++ t) :
    m = n ∧ s = t := by
  obtain ⟨hmn, hst⟩ := littleEndian_append_inj h
  have hm : m.toUInt32.toNat < 256 ^ 4 := m.toUInt32.toNat_lt
  have hn : n.toUInt32.toNat < 256 ^ 4 := n.toUInt32.toNat_lt
  rw [Nat.mod_eq_of_lt hm, Nat.mod_eq_of_lt hn] at hmn
  exact ⟨toUInt32_injective (UInt32.toNat_inj.mp hmn), hst⟩

/-! ### Texts -/

/-- No byte of a character is the one that ends a text. -/
theorem ne_end_of_mem_utf8 {c : Char} {b : UInt8} (h : b ∈ String.utf8EncodeChar c) : b ≠ 0xff := by
  have hbelow : ∀ n : Nat, n < 0xff → UInt8.ofNat n ≠ 0xff := by
    intro n hn he
    have hnat := congrArg UInt8.toNat he
    rw [UInt8.toNat_ofNat', Nat.mod_eq_of_lt (by omega)] at hnat
    have hff : (0xff : UInt8).toNat = 0xff := rfl
    omega
  simp only [String.utf8EncodeChar] at h
  -- one case for each length of a character; lead and trail bytes all lie below 0xf8
  split_ifs at h
  · simp only [List.mem_cons, List.not_mem_nil, or_false] at h
    rw [h]
    exact hbelow _ (by omega)
  · simp only [List.mem_cons, List.not_mem_nil, or_false] at h
    rcases h with h | h <;> (rw [h]; exact hbelow _ (by omega))
  · simp only [List.mem_cons, List.not_mem_nil, or_false] at h
    rcases h with h | h | h <;> (rw [h]; exact hbelow _ (by omega))
  · simp only [List.mem_cons, List.not_mem_nil, or_false] at h
    rcases h with h | h | h | h <;> (rw [h]; exact hbelow _ (by omega))

theorem utf8_injective {s t : String}
    (h : s.toList.flatMap String.utf8EncodeChar = t.toList.flatMap String.utf8EncodeChar) : s = t := by
  have hbytes : s.toList.utf8Encode = t.toList.utf8Encode := congrArg List.toByteArray h
  rw [String.utf8Encode_toList, String.utf8Encode_toList] at hbytes
  exact String.toByteArray_inj.mp hbytes

theorem terminated_append_inj {s t : String} {x y : List UInt8}
    (h : terminated s ++ x = terminated t ++ y) : s = t ∧ x = y := by
  have hinner : ∀ u : String, ∀ b ∈ u.toList.flatMap String.utf8EncodeChar, (b != 0xff) = true := by
    intro u b hb
    obtain ⟨c, _, hbc⟩ := List.mem_flatMap.mp hb
    exact bne_iff_ne.mpr (ne_end_of_mem_utf8 hbc)
  have hstop : ∀ z : List UInt8, Text.Stops (· != 0xff) (0xff :: z) := by
    intro z
    rw [Text.stops_cons]
    rfl
  rw [terminated, terminated, List.append_assoc, List.append_assoc] at h
  obtain ⟨hst, hxy⟩ := Text.append_inj_of_stops (hinner s) (hinner t) (hstop x) (hstop y) h
  exact ⟨utf8_injective hst, (List.cons.inj hxy).2⟩

theorem terminated_injective {s t : String} (h : terminated s = terminated t) : s = t := by
  have happend : terminated s ++ [] = terminated t ++ [] := by
    rw [h]
  exact (terminated_append_inj happend).1

theorem terminated_ne_nil (s : String) : terminated s ≠ [] := by
  simp [terminated]

theorem terminated_append (s t : String) :
    terminated (s ++ t) = s.toList.flatMap String.utf8EncodeChar ++ terminated t := by
  simp only [terminated, String.toList_append, List.flatMap_append, List.append_assoc]

end PlanReuse.Hash
