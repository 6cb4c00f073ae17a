/-!
# Blank characters and trimming

The white space of the Unicode standard. Fields of a report lose it on both sides.
-/

namespace PlanReuse.Text

/-- The White_Space property: the ASCII blanks, the next-line control and the space separators. -/
def isBlank (c : Char) : Bool :=
  let n := c.toNat
  (9 ≤ n && n ≤ 13) || n == 0x20 || n == 0x85 || n == 0xA0 || n == 0x1680 ||
    (0x2000 ≤ n && n ≤ 0x200A) || n == 0x2028 || n == 0x2029 || n == 0x202F || n == 0x205F ||
    n == 0x3000

/-- A byte order mark in front of a text counts for nothing. -/
def dropMark : List Char → List Char
  | '\uFEFF' :: r => r
  | s => s

/-- Cuts blanks from the front. -/
def trimStart (s : List Char) : List Char := s.dropWhile isBlank

/-- Cuts blanks from both sides. -/
def trim (s : List Char) : List Char := (trimStart (trimStart s).reverse).reverse

/-- What the trimmed text begins with is not blank. -/
theorem head_trimStart (s : List Char) (c : Char) (h : (trimStart s).head? = some c) :
    isBlank c = false := by
  induction s with
  | nil => simp [trimStart] at h
  | cons d r ih =>
    by_cases hd : isBlank d = true
    · exact ih (by simpa [trimStart, List.dropWhile_cons, hd] using h)
    · have : d = c := by simpa [trimStart, List.dropWhile_cons, hd] using h
      simpa [← this] using hd

theorem isBlank_of_isWhitespace (c : Char) (h : c.isWhitespace = true) : isBlank c = true := by
  simp only [Char.isWhitespace, Bool.or_eq_true, decide_eq_true_eq] at h
  rcases h with ((rfl | rfl) | rfl) | rfl <;> decide

end PlanReuse.Text
