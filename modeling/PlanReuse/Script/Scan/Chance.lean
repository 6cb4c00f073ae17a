import PlanReuse.Number.Arithmetic

/-!
# Chance

A row of words that looks irregular: each one is the sum of the words three and thirty-one places before it.
The first ones are made from a seed by powers of a root of unity.
-/

namespace PlanReuse.Script.Scan

/-- The last thirty-one words, the latest first. -/
structure Chance where
  words : List Nat

namespace Chance

/-- The largest draw. -/
def most : Nat := 2147483647

/-- The next word. -/
def next (c : Chance) : Nat := ((c.words[2]?).getD 0 + (c.words[30]?).getD 0) % Nat.pow 2 32

def step (c : Chance) : Chance := ⟨(c.next :: c.words).take 31⟩

/-- The chance of a seed. The words that the seed makes directly are left behind. -/
def ofSeed (seed : Nat) : Chance :=
  let first := if seed = 0 then 1 else seed
  let grow (x : Nat) : Nat :=
    -- a word with its highest bit set stands for a negative number
    if x < Nat.pow 2 31 then 16807 * x % most else (most - 16807 * (Nat.pow 2 32 - x) % most) % most
  let start : List Nat := (List.range 30).foldl (fun ws _ => grow (ws.headD 0) :: ws) [first]
  let shifted : List Nat := [start[28]?.getD 0, start[29]?.getD 0, start[30]?.getD 0] ++ start.take 28
  (List.range 310).foldl (fun c _ => c.step) ⟨shifted⟩

/-- A draw: the next word without its lowest bit. -/
def draw (c : Chance) : Nat × Chance := (c.next / 2, c.step)

/-- A draw as a share of one. -/
def share (c : Chance) : Binary64 × Chance :=
  let (n, c) := c.draw
  (.nearest false n most, c)

theorem step_length (c : Chance) (h : c.words.length = 31) : c.step.words.length = 31 := by
  simp [step, h]

end Chance

end PlanReuse.Script.Scan
