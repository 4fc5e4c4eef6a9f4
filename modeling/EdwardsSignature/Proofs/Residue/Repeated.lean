import EdwardsSignature.Repeated
import Mathlib.Tactic

/-!
# What repetition gives

Halving finds the combination of `n` copies: whatever holds of no copies and of one, and goes over to
the combination of two numbers of copies, holds of `repeated` (`repeated_induction`). The property
may mention the number of copies, so that it can say what the combination *is* in a structure in which
the operation is associative, such as a power in a field or a multiple in a group.
-/

namespace EdwardsSignature

variable {α : Type} {op : α → α → α} {unit x : α}

/-- A property of numbers of copies, proved along the halving. -/
theorem repeatedWithin_induction {r : ℕ → α → Prop} (zero : r 0 unit) (one : r 1 x)
    (add : ∀ {m n a b}, r m a → r n b → r (m + n) (op a b)) (width : ℕ) {n : ℕ}
    (hn : n < 2 ^ width) : r n (repeatedWithin op unit x width n) := by
  induction width generalizing n with
  | zero =>
    obtain rfl : n = 0 := by simpa using hn
    exact zero
  | succ width ih =>
    -- Half of the copies, twice, and one more if their number is odd.
    have hhalf : r (n / 2) (repeatedWithin op unit x width (n / 2)) :=
      ih (by rw [pow_succ] at hn; omega)
    have htwice := add hhalf hhalf
    rw [repeatedWithin]
    split_ifs with hodd
    · have hn' : n / 2 + n / 2 + 1 = n := by omega
      simpa only [hn'] using add htwice one
    · have hn' : n / 2 + n / 2 = n := by omega
      simpa only [hn'] using htwice

/-- What holds of no copies and of one copy, and of the combination of any two numbers of copies that
    it holds of, holds of any number of copies. -/
theorem repeated_induction {r : ℕ → α → Prop} (zero : r 0 unit) (one : r 1 x)
    (add : ∀ {m n a b}, r m a → r n b → r (m + n) (op a b)) (n : ℕ) :
    r n (repeated op unit n x) :=
  repeatedWithin_induction zero one add _ Nat.lt_log2_self

end EdwardsSignature
