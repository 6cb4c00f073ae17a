/-!
# 64-bit words

Sizes and counts are natural numbers; what is written and read is a word of 64 bits.
-/

namespace PlanReuse

/-- The largest word. Sums and products of sizes stop there. -/
def maxWord : Nat := 0xFFFFFFFFFFFFFFFF

/-- A count as a word: it begins again at zero after the largest one. -/
def wrapWord (n : Nat) : Nat := n % (maxWord + 1)

theorem wrapWord_of_le {n : Nat} (h : n ≤ maxWord) : wrapWord n = n :=
  Nat.mod_eq_of_lt (Nat.lt_succ_of_le h)

end PlanReuse
