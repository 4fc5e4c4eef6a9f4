import EdwardsSignature.Proofs.Curve.Laws

/-!
# Equality is decided

Two comparisons are behind every verdict, and both decide equality.

* Byte strings are compared by collecting their differences. They agree if and only if they are equal,
  whatever their lengths.
* Points are compared by their encodings, as byte strings, such as the two sides of the verification
  equation. They are the same if and only if they stand for one affine point
  (`Point.Valid.same_iff_affine_eq`). The coordinates that they have may differ, as they depend on what was
  computed to obtain the point: only the ratios `X / Z` and `Y / Z` have to be the same
  (`Point.Valid.affine_eq_affine_iff`).

The second one holds of all valid coordinates, and so of all points that can be obtained by decoding and
computing (`Point.equality_decided`).
-/

namespace EdwardsSignature.Point

variable {P Q : Point}

/-! ## Coordinates of one point -/

theorem affine_x_eq_div (P : Point) : P.affine.x = P.X / P.Z := (div_eq_mul_inv _ _).symm

theorem affine_y_eq_div (P : Point) : P.affine.y = P.Y / P.Z := (div_eq_mul_inv _ _).symm

/-- Coordinates stand for one affine point if they have the same ratios to their denominators. -/
theorem Valid.affine_eq_affine_iff (hP : P.Valid) (hQ : Q.Valid) :
    P.affine = Q.affine ↔ P.X * Q.Z = Q.X * P.Z ∧ P.Y * Q.Z = Q.Y * P.Z := by
  obtain ⟨hZ, -, -⟩ := hP
  obtain ⟨hZ', -, -⟩ := hQ
  rw [Affine.ext_iff, affine_x_eq_div, affine_x_eq_div, affine_y_eq_div, affine_y_eq_div,
    div_eq_div_iff hZ hZ', div_eq_div_iff hZ hZ']

/-- The encodings of points tell whether they stand for one affine point. -/
theorem Valid.same_iff_affine_eq (hP : P.Valid) (hQ : Q.Valid) :
    P.same Q = true ↔ P.affine = Q.affine := by
  rw [same_iff hP.represents hQ.represents, CurvePoint.ext_iff]

/-! ## Byte strings and points -/

/-- Byte strings agree if and only if they are equal, whatever their lengths; the verdict as a bit is `1`
    in this case and `0` in the other one, and for byte strings of one length it is what the verdicts on
    the bytes at all positions combine to. Any two valid coordinates of points of the curve are the same,
    as their encodings tell, if and only if they stand for one affine point, that is, if they have the same
    ratios to their denominators; and valid are the coordinates of all points that can be obtained. -/
theorem equality_decided :
    (∀ as bs : Bytes,
      (Bytes.agree as bs = true ↔ as = bs) ∧
      (Bytes.agreement as bs = 1 ↔ as = bs) ∧ (Bytes.agreement as bs = 0 ↔ as ≠ bs) ∧
      (as.length = bs.length → Bytes.agreement as bs = Bytes.bytewiseAgreement as bs)) ∧
    (∀ P Q : Point, P.Valid → Q.Valid →
      (P.same Q = true ↔ P.affine = Q.affine) ∧
      (P.affine = Q.affine ↔ P.X * Q.Z = Q.X * P.Z ∧ P.Y * Q.Z = Q.Y * P.Z)) ∧
    ∀ P : Point, P.Obtained → P.Valid := by
  refine ⟨fun as bs => ⟨Bytes.agree_iff as bs, Bytes.agreement_eq_one_iff as bs,
    Bytes.agreement_eq_zero_iff as bs, Bytes.agreement_eq_bytewiseAgreement⟩, ?_, ?_⟩
  · intro P Q hP hQ
    exact ⟨hP.same_iff_affine_eq hQ, hP.affine_eq_affine_iff hQ⟩
  · intro P hP
    exact hP.valid

/-- A byte string does not agree with what it begins with. The eightfold of a point of order `8` is the
    identity, in other coordinates than those that decoding gives, and its fourfold is another point with
    `x = 0`; the negative of the base point differs from the base point in the sign of `x` only. -/
theorem equality_decided_octant :
    Bytes.agree [1, 2, 3] [1, 2] = false ∧
    ((ofAffine CurvePoint.octant.affine).eightfold.Valid ∧ identity.Valid ∧
      (ofAffine CurvePoint.octant.affine).eightfold ≠ identity ∧
      (ofAffine CurvePoint.octant.affine).eightfold.same identity = true) ∧
    (((ofAffine CurvePoint.octant.affine).multiple (4 : Scalar).val).Valid ∧
      ((ofAffine CurvePoint.octant.affine).multiple (4 : Scalar).val).affine.x = identity.affine.x ∧
      ((ofAffine CurvePoint.octant.affine).multiple (4 : Scalar).val).same identity = false) ∧
    (base.multiple (-1 : Scalar).val).Valid ∧ base.Valid ∧
    (base.multiple (-1 : Scalar).val).affine.y = base.affine.y ∧
    (base.multiple (-1 : Scalar).val).same base = false := by
  obtain ⟨hbytes, hpoints, hvalid⟩ := equality_decided
  have hoctant := obtained_ofAffine .octant
  have hidentity := hvalid _ obtained_identity
  have heightfold := hvalid _ hoctant.eightfold
  have hfourfold := hvalid _ (hoctant.multiple 4)
  have hneg := hvalid _ (.multipleBase (-1))
  have hbase : base.Valid := hvalid _ (obtained_ofAffine .base)
  refine ⟨?_, ⟨heightfold, hidentity, by decide +kernel, ?_⟩, ⟨hfourfold, by decide +kernel, ?_⟩,
    hneg, hbase, by decide +kernel, ?_⟩
  · rw [← Bool.not_eq_true, (hbytes _ _).1]
    decide
  · rw [(hpoints _ _ heightfold hidentity).1]
    decide +kernel
  · rw [← Bool.not_eq_true, (hpoints _ _ hfourfold hidentity).1]
    decide +kernel
  · rw [← Bool.not_eq_true, (hpoints _ _ hneg hbase).1]
    decide +kernel

end EdwardsSignature.Point
