import EdwardsSignature.Curve.Encoding
import EdwardsSignature.Proofs.Residue.Primality
import Mathlib.FieldTheory.Finite.Basic
import Mathlib.Tactic

/-!
# The laws of the field

The ring of the coordinates is a field: the inverse that is computed as a power is one, by Fermat's
little theorem. Square roots are found whenever there are any (`Fe.sqrt?_eq_none_iff`), and an element
is told from its negative by its parity (`Fe.eq_of_parity_eq`).
-/

namespace EdwardsSignature.Fe

theorem mul_inverse_cancel {a : Fe} (ha : a ≠ 0) : a * a⁻¹ = 1 := Residue.mul_power_sub_two ha

instance : Field Fe where
  exists_pair_ne := ⟨0, 1, by decide⟩
  div_eq_mul_inv _ _ := rfl
  mul_inv_cancel _ := mul_inverse_cancel
  inv_zero := by decide +kernel
  nnqsmul := _
  nnqsmul_def _ _ := rfl
  qsmul := _
  qsmul_def _ _ := rfl

theorem two_ne_zero : (2 : Fe) ≠ 0 := by decide

/-! ## Square roots -/

theorem sqrtNegOne_mul_self : sqrtNegOne * sqrtNegOne = -1 := by decide +kernel

/-- The root of a square `b²` that is computed at first squares to `b²` or to `-b²`. -/
theorem power_mul_self_of_mul_self (b : Fe) :
    (b * b).power (fieldPrime / 8 + 1) * (b * b).power (fieldPrime / 8 + 1) = b * b ∨
      (b * b).power (fieldPrime / 8 + 1) * (b * b).power (fieldPrime / 8 + 1) = -(b * b) := by
  rcases eq_or_ne b 0 with rfl | hb
  · exact .inl (by decide +kernel)
  have hexp : 2 * (fieldPrime / 8 + 1 + (fieldPrime / 8 + 1)) = (fieldPrime - 1) / 2 + 2 := by
    decide
  have hhalf : (fieldPrime - 1) / 2 + (fieldPrime - 1) / 2 = fieldPrime - 1 := by decide
  have hsign : b ^ ((fieldPrime - 1) / 2) * b ^ ((fieldPrime - 1) / 2) = 1 := by
    rw [← pow_add, hhalf, Residue.pow_sub_one hb]
  have hroot : (b * b).power (fieldPrime / 8 + 1) * (b * b).power (fieldPrime / 8 + 1) =
      b ^ ((fieldPrime - 1) / 2) * (b * b) := by
    rw [Residue.power_eq_pow, ← pow_add, ← sq, ← pow_mul, hexp, pow_add]
  rw [hroot]
  rcases mul_self_eq_one_iff.1 hsign with h | h
  · exact .inl (by rw [h, one_mul])
  · exact .inr (by rw [h, neg_one_mul])

/-- No square root is found exactly where there is none. -/
theorem sqrt?_eq_none_iff {a : Fe} : sqrt? a = none ↔ ¬IsSquare a := by
  constructor
  · rintro h ⟨b, rfl⟩
    rw [sqrt?] at h
    rcases power_mul_self_of_mul_self b with hr | hr
    · rw [if_pos hr] at h
      cases h
    · -- The root is repaired by the factor that squares to `-1`.
      have hr' : (b * b).power (fieldPrime / 8 + 1) * sqrtNegOne *
          ((b * b).power (fieldPrime / 8 + 1) * sqrtNegOne) = b * b := by
        rw [mul_mul_mul_comm, hr, sqrtNegOne_mul_self, neg_mul_neg, mul_one]
      rw [if_pos hr'] at h
      split at h <;> cases h
  · intro h
    rw [Option.eq_none_iff_forall_ne_some]
    exact fun r hr => h ⟨r, (mul_self_of_sqrt?_eq_some hr).symm⟩

/-! ## Parity -/

/-- A nonzero element and its negative have different parities, as the modulus is odd. -/
theorem parity_neg {a : Fe} (ha : a ≠ 0) : (-a).parity = 1 - a.parity := by
  have hpos : 0 < a.val := Nat.pos_of_ne_zero fun h => ha (Residue.ext_val h)
  have hval : (-a).val = fieldPrime - a.val := by
    rw [Residue.val_neg, Nat.mod_eq_of_lt (Nat.sub_lt Modulus.pos hpos)]
  have hodd : fieldPrime % 2 = 1 := by decide
  have hlt := a.isLt
  rw [parity, parity, hval]
  omega

theorem parity_le_one (a : Fe) : a.parity ≤ 1 := Nat.le_of_lt_succ (Nat.mod_lt _ two_pos)

/-- Square roots of the same element with the same parity are equal. -/
theorem eq_of_parity_eq {a b : Fe} (hsq : a * a = b * b) (hpar : a.parity = b.parity) : a = b := by
  rcases mul_self_eq_mul_self_iff.1 hsq with h | h
  · exact h
  · by_contra hne
    have hb : b ≠ 0 := fun hb => hne (by rw [h, hb, neg_zero])
    have := parity_neg hb
    have := parity_le_one b
    rw [← h] at *
    omega

end EdwardsSignature.Fe
