import Mathlib.Algebra.GroupWithZero.Nat
import TrafficRouter.Text.Numeral

/-!
# Words of 64 bits

Lengths and counts are numbers without a bound here and words of 64 bits where a machine keeps them.
A sum or a difference of words is one as well, or none: where it would go out of range there is no
result to rely on.

* `sum64?`, `difference64?`: one step;
* `total64?_eq_some`: a count that goes up step by step is the sum, if the sum is a word.

NOT here: which sums there are.
-/

namespace TrafficRouter

/-- A sum as a word of 64 bits, if it is one. -/
def sum64? (a b : Nat) : Option Nat := if a + b ≤ Numeral.maxWord64 then some (a + b) else none

/-- A difference as a word of 64 bits, if it is one. -/
def difference64? (a b : Nat) : Option Nat := if b ≤ a then some (a - b) else none

/-- Where a count of words of 64 bits comes to that goes up by one number after the other, if every sum
on the way is a word. -/
def total64? (numbers : List Nat) : Option Nat := numbers.foldlM sum64? 0

/-- **A count comes to the sum of its steps**, if that is a word: then all that came before are. -/
theorem total64?_eq_some {numbers : List Nat} (h : numbers.sum ≤ Numeral.maxWord64) :
    total64? numbers = some numbers.sum := by
  suffices hfrom : ∀ start, start + numbers.sum ≤ Numeral.maxWord64 →
      numbers.foldlM sum64? start = some (start + numbers.sum) by
    have hzero := hfrom 0
    rw [Nat.zero_add] at hzero
    exact hzero h
  clear h
  induction numbers with
  | nil => exact fun _ _ => rfl
  | cons n numbers ih =>
    intro start hsum
    rw [List.sum_cons, ← Nat.add_assoc] at hsum ⊢
    have hfirst : sum64? start n = some (start + n) :=
      if_pos (Nat.le_trans (Nat.le_add_right _ _) hsum)
    rw [List.foldlM_cons, hfirst]
    exact ih (start + n) hsum

end TrafficRouter
