import EdwardsSignature.Proofs.Curve.Addition

/-!
# What extended coordinates stand for

A point in extended coordinates *represents* a point of the curve (`Point.Represents`). Sums and
multiples in extended coordinates represent the sums and multiples in the group, whatever the
coordinates that they are computed from (`Point.Represents.add`, `Point.Represents.multiple`,
`Point.Represents.eightfold`): what is computed does not depend on the choice.
-/

namespace EdwardsSignature.Point

/-- The extended coordinates `P` are coordinates of the point `A` of the curve. -/
structure Represents (P : Point) (A : CurvePoint) : Prop where
  Z_ne_zero : P.Z ≠ 0
  X_eq : P.X = A.affine.x * P.Z
  Y_eq : P.Y = A.affine.y * P.Z
  T_eq : P.T = A.affine.x * A.affine.y * P.Z

variable {P Q : Point} {A B : CurvePoint}

theorem Represents.affine_eq (h : P.Represents A) : P.affine = A.affine := by
  have hw : P.Z * P.Z⁻¹ = 1 := mul_inv_cancel₀ h.Z_ne_zero
  ext
  · rw [affine, h.X_eq, mul_assoc, hw, mul_one]
  · rw [affine, h.Y_eq, mul_assoc, hw, mul_one]

/-- The coordinates of no two points are the same. -/
theorem Represents.unique (hA : P.Represents A) (hB : P.Represents B) : A = B :=
  CurvePoint.ext (hA.affine_eq.symm.trans hB.affine_eq)

/-- Valid coordinates represent the affine point that they stand for. -/
theorem Valid.represents (h : P.Valid) : P.Represents ⟨P.affine, h.2.2⟩ := by
  obtain ⟨hZ, hT, -⟩ := h
  have hw : P.Z⁻¹ * P.Z = 1 := inv_mul_cancel₀ hZ
  refine ⟨hZ, ?_, ?_, ?_⟩ <;> simp only [affine]
  · rw [mul_assoc, hw, mul_one]
  · rw [mul_assoc, hw, mul_one]
  · linear_combination -(P.X * P.Y * P.Z⁻¹ + P.T) * hw - P.Z⁻¹ * hT

/-- Coordinates of a point of the curve are valid. -/
theorem Represents.valid (h : P.Represents A) : P.Valid := by
  refine ⟨h.Z_ne_zero, ?_, h.affine_eq ▸ A.onCurve⟩
  rw [h.X_eq, h.Y_eq, h.T_eq]
  ring

/-- The coordinates of points of the curve are those that are valid. -/
theorem represents_iff : P.Represents A ↔ P.Valid ∧ P.affine = A.affine := by
  constructor
  · exact fun h => ⟨h.valid, h.affine_eq⟩
  · rintro ⟨hP, hA⟩
    obtain rfl : ⟨P.affine, hP.2.2⟩ = A := CurvePoint.ext hA
    exact hP.represents

theorem represents_ofAffine (A : CurvePoint) : (ofAffine A.affine).Represents A :=
  ⟨one_ne_zero, (mul_one _).symm, (mul_one _).symm, (mul_one _).symm⟩

theorem represents_identity : identity.Represents 0 := represents_ofAffine 0

theorem represents_base : base.Represents .base := represents_ofAffine .base

/-- Sums are computed as in the group, for any two points of the curve. -/
theorem Represents.add (hP : P.Represents A) (hQ : Q.Represents B) :
    (P + Q).Represents (A + B) := by
  obtain ⟨hu, hv⟩ := Affine.denominators_ne_zero A.onCurve B.onCurve
  -- Each of the four factors has the common factor `2 Z Z'`, twice the product of the denominators
  -- of the two points.
  have hscale : 2 * P.Z * Q.Z ≠ 0 :=
    mul_ne_zero (mul_ne_zero Fe.two_ne_zero hP.Z_ne_zero) hQ.Z_ne_zero
  have hE : (P.Y + P.X) * (Q.Y + Q.X) - (P.Y - P.X) * (Q.Y - Q.X) =
      2 * P.Z * Q.Z * (A.affine.x * B.affine.y + B.affine.x * A.affine.y) := by
    rw [hP.X_eq, hP.Y_eq, hQ.X_eq, hQ.Y_eq]
    ring
  have hH : (P.Y + P.X) * (Q.Y + Q.X) + (P.Y - P.X) * (Q.Y - Q.X) =
      2 * P.Z * Q.Z * (A.affine.y * B.affine.y + A.affine.x * B.affine.x) := by
    rw [hP.X_eq, hP.Y_eq, hQ.X_eq, hQ.Y_eq]
    ring
  have hF : (P.Z + P.Z) * Q.Z - (curveD + curveD) * P.T * Q.T =
      2 * P.Z * Q.Z * (1 - A.affine.excess B.affine) := by
    rw [hP.T_eq, hQ.T_eq, Affine.excess]
    ring
  have hG : (P.Z + P.Z) * Q.Z + (curveD + curveD) * P.T * Q.T =
      2 * P.Z * Q.Z * (1 + A.affine.excess B.affine) := by
    rw [hP.T_eq, hQ.T_eq, Affine.excess]
    ring
  have hx := (div_mul_cancel₀ (A.affine.x * B.affine.y + B.affine.x * A.affine.y) hu)
  have hy := (div_mul_cancel₀ (A.affine.y * B.affine.y + A.affine.x * B.affine.x) hv)
  rw [← Affine.add_x, ← CurvePoint.affine_add] at hx
  rw [← Affine.add_y, ← CurvePoint.affine_add] at hy
  change (Point.add P Q).Represents (A + B)
  constructor <;> simp only [Point.add, hE, hF, hG, hH, ← hx, ← hy]
  · exact mul_ne_zero (mul_ne_zero hscale hv) (mul_ne_zero hscale hu)
  · ring
  · ring
  · ring

/-- Multiples are computed as in the group. -/
theorem Represents.multiple (hP : P.Represents A) (n : ℕ) : (P.multiple n).Represents (n • A) := by
  refine repeated_induction (r := fun n (Q : Point) => Q.Represents (n • A)) ?_ ?_ ?_ n
  · exact (zero_nsmul A).symm ▸ represents_identity
  · exact (one_nsmul A).symm ▸ hP
  · intro m n Q R hQ hR
    exact (add_nsmul A m n).symm ▸ hQ.add hR

/-- Doubling three times gives the eightfold. -/
theorem Represents.eightfold (hP : P.Represents A) : P.eightfold.Represents (8 • A) := by
  have h₂ := hP.add hP
  have h₄ := h₂.add h₂
  have h₈ := h₄.add h₄
  have height : 8 • A = A + A + (A + A) + (A + A + (A + A)) := by abel
  exact height ▸ h₈

end EdwardsSignature.Point
