import PlanReuse.Proofs.Algebra.Separation

/-!
# Reading constants back

A constant is a word and what ends it: the mark of its type, the quoted text, or nothing after the word
of the absent value.
-/

namespace PlanReuse

open Text (IsWord isPlain)
open Scalar (Closed Determines Ends Opens)

/-! ### Integers -/

theorem isWord_signedDigits (n : Int) : IsWord (signedDigits n) := by
  have hsign : IsWord (if n < 0 then ['-'] else []) := by
    split <;> decide
  exact (Text.isWord_append _ _).mpr ⟨hsign, Decimal.isWord_digits _⟩

theorem minus_not_mem_digits (n : Nat) : '-' ∉ Decimal.digits n := by
  intro h
  exact absurd (Decimal.isDigit_of_mem_digits h) (by decide)

theorem signedDigits_injective {m n : Int} (h : signedDigits m = signedDigits n) : m = n := by
  rcases Int.lt_or_le m 0 with hm | hm <;> rcases Int.lt_or_le n 0 with hn | hn <;>
    simp only [signedDigits, hm, hn, Int.not_lt.mpr, if_true, if_false, List.cons_append,
      List.nil_append] at h
  · have habs := Decimal.digits_injective (List.cons.inj h).2
    omega
  · exact absurd (h ▸ List.mem_cons_self ..) (minus_not_mem_digits _)
  · exact absurd (h ▸ List.mem_cons_self ..) (minus_not_mem_digits _)
  · have habs := Decimal.digits_injective h
    omega

namespace Constant

/-- The word that a constant begins with. -/
def word : Constant → List Char
  | .null => ['N', 'U', 'L', 'L']
  | .bool true => ['t', 'r', 'u', 'e']
  | .bool false => ['f', 'a', 'l', 's', 'e']
  | .int n => signedDigits n
  | .double x => Decimal.text Constant.layout x
  | .text _ => []

/-- What follows the word of a constant. -/
def ending : Constant → List Char
  | .null => []
  | .bool _ => [':', 'b', 'o', 'o', 'l']
  | .int _ => [':', 'i', 'n', 't']
  | .double _ => [':', 'd', 'o', 'u', 'b', 'l', 'e']
  | .text s => Text.quoted s.toList ++ [':', 's', 't', 'r']

theorem render_eq_word_append (c : Constant) : c.render = c.word ++ c.ending := by
  cases c with
  | null => rfl
  | bool b => cases b <;> decide
  | int n =>
    have hmark : ":int".toList = [':', 'i', 'n', 't'] := by decide
    exact congrArg (signedDigits n ++ ·) hmark
  | double x =>
    have hmark : ":double".toList = [':', 'd', 'o', 'u', 'b', 'l', 'e'] := by decide
    exact congrArg (Decimal.text Constant.layout x ++ ·) hmark
  | text s =>
    have hmark : ":str".toList = [':', 's', 't', 'r'] := by decide
    exact congrArg (Text.quoted s.toList ++ ·) hmark

theorem isWord_word (c : Constant) : IsWord c.word := by
  cases c with
  | null => decide
  | bool b => cases b <;> decide
  | int n => exact isWord_signedDigits n
  | double x => exact Decimal.isWord_text _ x
  | text s => exact Text.isWord_nil

theorem stops_ending (c : Constant) {s : List Char} (hs : Ends s) :
    Text.Stops isPlain (c.ending ++ s) := by
  cases c with
  | null => exact hs.stops
  | _ => exact (Text.stops_cons ..).mpr rfl

/-- The place of a constant's form among the five, read off what follows its word. -/
def formOf : List Char → Nat
  | '"' :: _ => 4
  | ':' :: 'b' :: _ => 1
  | ':' :: 'i' :: _ => 2
  | ':' :: 'd' :: _ => 3
  | _ => 0

theorem formOf_of_ends {s : List Char} (hs : Ends s) : formOf s = 0 := by
  cases s with
  | nil => rfl
  | cons c s =>
    have hc := hs c rfl
    simp only [Scalar.closers, List.mem_cons, List.not_mem_nil, or_false] at hc
    rcases hc with rfl | rfl | rfl | rfl <;> rfl

theorem formOf_ending (c : Constant) {s : List Char} (hs : Ends s) :
    formOf (c.ending ++ s) = c.ctorIdx := by
  cases c with
  | null => exact formOf_of_ends hs
  | _ => rfl

theorem determines (c : Constant) : Determines Ends render Alike (fun _ => True) c := by
  intro d s t _ hs ht h
  rw [render_eq_word_append, render_eq_word_append, List.append_assoc, List.append_assoc] at h
  obtain ⟨hword, hend⟩ := Text.word_append_inj (isWord_word c) (isWord_word d) (stops_ending c hs)
    (stops_ending d ht) h
  have hform : c.ctorIdx = d.ctorIdx := by
    rw [← formOf_ending c hs, ← formOf_ending d ht, hend]
  cases c with
  | null =>
    cases d with
    | null => exact ⟨rfl, hend⟩
    | _ => cases hform
  | bool b =>
    cases d with
    | bool b' =>
      refine ⟨?_, List.append_cancel_left hend⟩
      cases b <;> cases b' <;> first | rfl | exact absurd hword (by decide)
    | _ => cases hform
  | int m =>
    cases d with
    | int n => exact ⟨congrArg int (signedDigits_injective hword), List.append_cancel_left hend⟩
    | _ => cases hform
  | double x =>
    cases d with
    | double y => exact ⟨hword, List.append_cancel_left hend⟩
    | _ => cases hform
  | text u =>
    cases d with
    | text v =>
      simp only [ending, List.append_assoc] at hend
      obtain ⟨htext, hend⟩ := Text.quoted_append_inj hend
      exact ⟨congrArg text (String.toList_inj.mp htext), List.append_cancel_left hend⟩
    | _ => cases hform

theorem opens : Opens render fun _ => True := by
  intro c _
  rw [render_eq_word_append]
  have hword := isWord_word c
  cases hw : c.word with
  | cons d w =>
    rw [hw, Text.isWord_cons] at hword
    exact ⟨d, w ++ c.ending, rfl, Scalar.not_mem_closers hword.1⟩
  | nil =>
    cases c with
    | null => cases hw
    | _ => exact ⟨_, _, rfl, by decide⟩

end Constant

end PlanReuse
