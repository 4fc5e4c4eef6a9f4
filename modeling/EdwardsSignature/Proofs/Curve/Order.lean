import EdwardsSignature.Proofs.Curve.Codec
import Mathlib.GroupTheory.OrderOfElement

/-!
# The order of the group

The base point has the prime order `order` (`CurvePoint.addOrderOf_base`), and the curve has
`8 * order` points (`CurvePoint.natCard_eq`). No points need be counted for that: the number of points
is a multiple of `8 * order`, as there are points of the orders `8` and `order`, and there are at most
two points for each `y`, which makes less than `16 * order`.

So the eightfold of any point is in the group that the base point generates
(`CurvePoint.order_nsmul_eight_nsmul`), and a factor may be reduced modulo `order` wherever it
multiplies the base point or an eightfold (`nsmul_mod_order`). As `order` is prime, an eightfold is
either `0`, which is so for the points of small order, or has the order of the base point
(`addOrderOf_eight_nsmul`).
-/

namespace EdwardsSignature.CurvePoint

/-- Multiples are computed in extended coordinates. -/
theorem affine_multiple (A : CurvePoint) (n : ℕ) :
    ((Point.ofAffine A.affine).multiple n).affine = (n • A).affine :=
  ((Point.represents_ofAffine A).multiple n).affine_eq

/-! ## Points of order `order` and `8` -/

theorem order_nsmul_base : order • base = 0 := by
  apply CurvePoint.ext
  rw [← affine_multiple]
  decide +kernel

theorem base_ne_zero : base ≠ 0 := by decide

/-- The order of the base point. -/
theorem addOrderOf_base : addOrderOf base = order :=
  addOrderOf_eq_prime order_nsmul_base base_ne_zero

/-- A point of order `8`. -/
def octant : CurvePoint where
  affine :=
    { x := .ofNat fieldPrime 0x1fd5b9a006394a28e933993238de4abb5c193c7013e5e238dea14646c545d14a
      y := .ofNat fieldPrime 0x05fc536d880238b13933c6d305acdfd5f098eff289f4c345b027b2c28f95e826 }
  onCurve := by decide +kernel

theorem addOrderOf_octant : addOrderOf octant = 8 := by
  change addOrderOf octant = 2 ^ (2 + 1)
  apply addOrderOf_eq_prime_pow
  · intro h
    have h₄ := congrArg CurvePoint.affine h
    rw [← affine_multiple] at h₄
    exact absurd h₄ (by decide +kernel)
  · apply CurvePoint.ext
    rw [← affine_multiple]
    decide +kernel

/-! ## The number of points -/

/-- A number for each point: the parity of its `x`, and its `y`. -/
def index (A : CurvePoint) : Fin (2 * fieldPrime) :=
  ⟨fieldPrime * A.affine.x.parity + A.affine.y.val, by
    have hx := Nat.mul_le_mul_left fieldPrime (Fe.parity_le_one A.affine.x)
    have hy : A.affine.y.val < fieldPrime := A.affine.y.isLt
    omega⟩

theorem index_injective : Function.Injective index := by
  intro A B h
  have hval : fieldPrime * A.affine.x.parity + A.affine.y.val =
      fieldPrime * B.affine.x.parity + B.affine.y.val := Fin.val_eq_of_eq h
  have hA : A.affine.y.val < fieldPrime := A.affine.y.isLt
  have hB : B.affine.y.val < fieldPrime := B.affine.y.isLt
  have hy := congrArg (· % fieldPrime) hval
  have hx := congrArg (· / fieldPrime) hval
  simp only [Nat.mul_add_mod, Nat.mod_eq_of_lt hA, Nat.mod_eq_of_lt hB] at hy
  simp only [Nat.mul_add_div Modulus.pos, Nat.div_eq_of_lt hA, Nat.div_eq_of_lt hB, add_zero] at hx
  exact CurvePoint.ext
    (Affine.eq_of_y_eq_of_parity_eq A.onCurve B.onCurve (Residue.ext_val hy) hx)

instance : Finite CurvePoint := Finite.of_injective index index_injective

/-- The curve has `8 * order` points. -/
theorem natCard_eq : Nat.card CurvePoint = 8 * order := by
  have hle : Nat.card CurvePoint ≤ 2 * fieldPrime := by
    have h := Nat.card_le_card_of_injective index index_injective
    rwa [Nat.card_fin] at h
  have hdvd : 8 * order ∣ Nat.card CurvePoint := by
    refine Nat.Coprime.mul_dvd_of_dvd_of_dvd (by decide +kernel) ?_ ?_
    · exact addOrderOf_octant ▸ addOrderOf_dvd_natCard octant
    · exact addOrderOf_base ▸ addOrderOf_dvd_natCard base
  -- A multiple of `8 * order` that is neither `0` nor twice that, or more.
  obtain ⟨k, hk⟩ := hdvd
  have hpos : 0 < Nat.card CurvePoint := Nat.card_pos
  have hlt : 2 * fieldPrime < 16 * order := by decide +kernel
  have hk0 : k ≠ 0 := by
    rintro rfl
    rw [hk, mul_zero] at hpos
    exact absurd hpos (lt_irrefl 0)
  have hk2 : k < 2 := by
    by_contra h
    have := Nat.mul_le_mul_left (8 * order) (not_lt.1 h)
    omega
  obtain rfl : k = 1 := by omega
  rw [hk, mul_one]

/-! ## Factors modulo `order` -/

/-- The eightfold of a point is in the group that the base point generates. -/
theorem order_nsmul_eight_nsmul (A : CurvePoint) : order • 8 • A = 0 := by
  rw [← mul_nsmul', mul_comm, ← natCard_eq, card_nsmul_eq_zero']

/-- Where `order` is the number of a point's multiples, or a multiple of it, factors may be
    reduced. -/
theorem nsmul_mod_order {A : CurvePoint} (hA : order • A = 0) (n : ℕ) :
    (n % order) • A = n • A := by
  conv_rhs => rw [← Nat.mod_add_div n order, add_nsmul, mul_nsmul, hA, nsmul_zero, add_zero]

/-! ## Points of small order -/

/-- An eightfold is `0` or has the order of the base point. -/
theorem addOrderOf_eight_nsmul {A : CurvePoint} (h : 8 • A ≠ 0) : addOrderOf (8 • A) = order :=
  addOrderOf_eq_prime (order_nsmul_eight_nsmul A) h

theorem eight_nsmul_octant : 8 • octant = 0 := addOrderOf_octant ▸ addOrderOf_nsmul_eq_zero octant

/-- The base point is not of small order. -/
theorem eight_nsmul_base_ne_zero : 8 • base ≠ 0 := by
  intro h
  have hdvd := addOrderOf_dvd_of_nsmul_eq_zero h
  rw [addOrderOf_base] at hdvd
  exact absurd (Nat.le_of_dvd (by decide) hdvd) (by decide)

end EdwardsSignature.CurvePoint
