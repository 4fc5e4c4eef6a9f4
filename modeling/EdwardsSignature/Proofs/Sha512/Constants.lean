import EdwardsSignature.Proofs.Sha512.Bitwise
import EdwardsSignature.Sha512.Compression

/-!
# The constants are roots of primes

The constants that are compressed with are those of the standard: the constants of the rounds come from
the cube roots of the first eighty primes (`Sha512.map_roundConstant`), and the state before the first
block comes from the square roots of the first eight (`Sha512.words_initial`).

For that, the primes have to be known by their number. They are read off the list of all numbers up to
the last one (`filter_prime_range`), from which those are filtered that have no divisor up to their root.
-/

namespace EdwardsSignature.Sha512

open Bitwise (Words rootFraction roundConstant)

/-! ## The first eighty primes -/

/-- What is left of a range after filtering is the first numbers with the property, in order. -/
theorem filter_range_eq_map_nth (p : ℕ → Prop) [DecidablePred p] (n : ℕ) :
    (List.range n).filter p = (List.range (Nat.count p n)).map (Nat.nth p) := by
  induction n with
  | zero => rfl
  | succ n ih =>
    rw [List.range_succ, List.filter_append, ih, Nat.count_succ]
    by_cases hn : p n
    · rw [if_pos hn, List.range_succ, List.map_append, List.map_singleton, Nat.nth_count hn,
        List.filter_singleton, decide_eq_true hn]
      rfl
    · rw [if_neg hn, add_zero, List.filter_singleton, decide_eq_false hn]
      exact List.append_nil _

/-- A number below `441` is prime if nothing up to `20` divides it, but itself. -/
theorem prime_iff_of_lt {n : ℕ} (hn : n < 441) :
    n.Prime ↔ 2 ≤ n ∧ ∀ m < 21, 2 ≤ m → m * m ≤ n → ¬m ∣ n := by
  rw [Nat.prime_def_le_sqrt]
  refine and_congr_right fun _ => ⟨fun h m _ hm hle => h m hm (Nat.le_sqrt.2 hle), fun h m hm hle => ?_⟩
  have hsq : m * m ≤ n := Nat.le_sqrt.1 hle
  exact h m (by nlinarith) hm hsq

/-- The first eighty primes. -/
def primes : List ℕ :=
  [2, 3, 5, 7, 11, 13, 17, 19, 23, 29, 31, 37, 41, 43, 47, 53, 59, 61, 67, 71, 73, 79, 83, 89, 97, 101,
   103, 107, 109, 113, 127, 131, 137, 139, 149, 151, 157, 163, 167, 173, 179, 181, 191, 193, 197, 199,
   211, 223, 227, 229, 233, 239, 241, 251, 257, 263, 269, 271, 277, 281, 283, 293, 307, 311, 313, 317,
   331, 337, 347, 349, 353, 359, 367, 373, 379, 383, 389, 397, 401, 409]

theorem filter_prime_range : (List.range 410).filter (fun n => n.Prime) = primes := by
  have h : (List.range 410).filter (fun n => n.Prime) =
      (List.range 410).filter fun n => 2 ≤ n ∧ ∀ m < 21, 2 ≤ m → m * m ≤ n → ¬m ∣ n := by
    refine List.filter_congr fun n hn => decide_eq_decide.2 (prime_iff_of_lt ?_)
    exact (List.mem_range.1 hn).trans (by decide)
  rw [h]
  decide +kernel

theorem map_nth_prime : (List.range 80).map (Nat.nth Nat.Prime) = primes := by
  have hcount : Nat.count Nat.Prime 410 = 80 := by
    rw [Nat.count, List.countP_eq_length_filter, filter_prime_range]
    rfl
  rw [← filter_prime_range, filter_range_eq_map_nth, hcount]

theorem nth_prime {t : ℕ} (ht : t < primes.length) : Nat.nth Nat.Prime t = primes[t] := by
  simp only [← map_nth_prime, List.getElem_map, List.getElem_range]

/-! ## The constants -/

theorem map_rootFraction : primes.map (rootFraction 3) = roundConstants.map UInt64.toBitVec := by
  decide +kernel

/-- The constants of the rounds are those of the standard. -/
theorem map_roundConstant :
    (List.range 80).map roundConstant = roundConstants.map UInt64.toBitVec := by
  have h : roundConstant = rootFraction 3 ∘ Nat.nth Nat.Prime := rfl
  rw [h, ← List.map_map, map_nth_prime, map_rootFraction]

/-- The words of a state. -/
def State.words (s : State) : Words :=
  ⟨s.a.toBitVec, s.b.toBitVec, s.c.toBitVec, s.d.toBitVec, s.e.toBitVec, s.f.toBitVec, s.g.toBitVec,
    s.h.toBitVec⟩

/-- The state before the first block is that of the standard. -/
theorem words_initial : State.initial.words = Bitwise.initial := by
  simp (disch := decide) only [Bitwise.initial, nth_prime]
  decide +kernel

end EdwardsSignature.Sha512
