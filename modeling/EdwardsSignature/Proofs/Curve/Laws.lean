import EdwardsSignature.Proofs.Scalar

/-!
# Computing with points obeys the laws of the group

Points are decoded, multiplied by scalars, added and taken eightfold, in any order (`Point.Obtained`). All
points that are obtained in this way are coordinates of points of the curve
(`Point.Obtained.represents`), and what is computed with them are coordinates of what the group has in
that place. Coordinates of one point may differ, so that the laws of the group hold of the affine points
that coordinates stand for: sums are associative and commutative, there are an identity and negatives,
and multiples, which are found by halving, are sums of as many copies added one after the other
(`Point.sum`). With the orders of the base point and of the group, scalars count modulo `order` as
factors of the base point, and eightfolds vanish when they are multiplied by `order`
(`Point.Obtained.group_laws`).
-/

namespace EdwardsSignature.Point

variable {P Q R : Point} {A B : CurvePoint}

/-! ## Points that are obtained -/

/-- The points that can be obtained by decoding and computing. -/
inductive Obtained : Point → Prop
  | decode {code : Octets 32} {P : Point} : decode? code = some P → Obtained P
  | multipleBase (a : Scalar) : Obtained (base.multiple a.val)
  | multiple (a : Scalar) {P : Point} : Obtained P → Obtained (P.multiple a.val)
  | add {P Q : Point} : Obtained P → Obtained Q → Obtained (P + Q)
  | eightfold {P : Point} : Obtained P → Obtained P.eightfold

/-- What is obtained are coordinates of a point of the curve. -/
theorem Obtained.represents (h : P.Obtained) : ∃ A, P.Represents A := by
  induction h with
  | decode h =>
    obtain ⟨A, -, rfl⟩ := decode?_eq_some_iff.1 h
    exact ⟨A, represents_ofAffine A⟩
  | multipleBase a => exact ⟨_, represents_base.multiple a.val⟩
  | multiple a _ ih =>
    obtain ⟨A, hA⟩ := ih
    exact ⟨_, hA.multiple a.val⟩
  | add _ _ ihP ihQ =>
    obtain ⟨A, hA⟩ := ihP
    obtain ⟨B, hB⟩ := ihQ
    exact ⟨_, hA.add hB⟩
  | eightfold _ ih =>
    obtain ⟨A, hA⟩ := ih
    exact ⟨_, hA.eightfold⟩

/-- Every point of the curve can be obtained, by decoding. -/
theorem obtained_ofAffine (A : CurvePoint) : (ofAffine A.affine).Obtained := .decode (decode?_encode A)

theorem obtained_identity : identity.Obtained := obtained_ofAffine 0

/-! ## Sums of copies -/

/-- The sum of `n` copies of a point, added one after the other. -/
def sum (P : Point) (n : ℕ) : Point := (List.replicate n P).foldl (· + ·) identity

theorem sum_succ (P : Point) (n : ℕ) : P.sum (n + 1) = P.sum n + P := by
  rw [sum, List.replicate_succ', List.foldl_concat, sum]

theorem Represents.sum (hP : P.Represents A) (n : ℕ) : (P.sum n).Represents (n • A) := by
  induction n with
  | zero => exact (zero_nsmul A).symm ▸ represents_identity
  | succ n ih =>
    rw [sum_succ, succ_nsmul]
    exact ih.add hP

/-! ## Laws -/

/-- Coordinates of equal points stand for one affine point. -/
theorem Represents.affine_eq_affine (hP : P.Represents A) (hQ : Q.Represents B) (h : A = B) :
    P.affine = Q.affine := by
  rw [hP.affine_eq, hQ.affine_eq, h]

namespace Obtained

variable (hP : P.Obtained) (hQ : Q.Obtained) (hR : R.Obtained)

include hP

theorem valid : P.Valid := by
  obtain ⟨A, hA⟩ := hP.represents
  exact hA.valid

theorem affine_add_identity : (P + identity).affine = P.affine := by
  obtain ⟨A, hA⟩ := hP.represents
  exact (hA.add represents_identity).affine_eq_affine hA (add_zero A)

/-- The negative of what is obtained can be obtained. -/
theorem exists_neg :
    ∃ N : Point, N.Obtained ∧ N.affine = P.affine.neg ∧ (P + N).affine = identity.affine := by
  obtain ⟨A, hA⟩ := hP.represents
  have hN := represents_ofAffine (-A)
  refine ⟨_, obtained_ofAffine (-A), ?_, ?_⟩
  · rw [hN.affine_eq, hA.affine_eq, CurvePoint.affine_neg]
  · exact (hA.add hN).affine_eq_affine represents_identity (add_neg_cancel A)

theorem affine_multiple (n : ℕ) : (P.multiple n).affine = (P.sum n).affine := by
  obtain ⟨A, hA⟩ := hP.represents
  exact (hA.multiple n).affine_eq_affine (hA.sum n) rfl

theorem affine_eightfold : P.eightfold.affine = (P.sum 8).affine := by
  obtain ⟨A, hA⟩ := hP.represents
  exact hA.eightfold.affine_eq_affine (hA.sum 8) rfl

/-- The eightfold of a point is in the group that the base point generates. -/
theorem affine_sum_order_eightfold : (P.eightfold.sum order).affine = identity.affine := by
  obtain ⟨A, hA⟩ := hP.represents
  exact (hA.eightfold.sum order).affine_eq_affine represents_identity
    (CurvePoint.order_nsmul_eight_nsmul A)

include hQ

theorem affine_add : (P + Q).affine = P.affine.add Q.affine := by
  obtain ⟨A, hA⟩ := hP.represents
  obtain ⟨B, hB⟩ := hQ.represents
  rw [(hA.add hB).affine_eq, hA.affine_eq, hB.affine_eq, CurvePoint.affine_add]

theorem affine_add_comm : (P + Q).affine = (Q + P).affine := by
  obtain ⟨A, hA⟩ := hP.represents
  obtain ⟨B, hB⟩ := hQ.represents
  exact (hA.add hB).affine_eq_affine (hB.add hA) (add_comm A B)

include hR

theorem affine_add_assoc : (P + Q + R).affine = (P + (Q + R)).affine := by
  obtain ⟨A, hA⟩ := hP.represents
  obtain ⟨B, hB⟩ := hQ.represents
  obtain ⟨C, hC⟩ := hR.represents
  exact ((hA.add hB).add hC).affine_eq_affine (hA.add (hB.add hC)) (add_assoc A B C)

end Obtained

/-! ## Multiples of the base point -/

/-- The base point is its multiple by the scalar `1`. -/
theorem affine_multiple_base (a : Scalar) :
    (base.multiple a.val).affine = ((base.multiple (1 : Scalar).val).multiple a.val).affine := by
  have hone : (1 : Scalar).val • CurvePoint.base = CurvePoint.base := one_nsmul _
  have hmultiple := (represents_base.multiple (1 : Scalar).val).multiple a.val
  rw [hone] at hmultiple
  exact (represents_base.multiple a.val).affine_eq_affine hmultiple rfl

/-- A sum of scalars may be reduced, as the base point has the order that scalars are counted modulo. -/
theorem affine_multiple_base_add (a b : Scalar) :
    (base.multiple (a + b).val).affine = (base.multiple a.val + base.multiple b.val).affine := by
  have hsum := (represents_base.multiple a.val).add (represents_base.multiple b.val)
  exact (represents_base.multiple (a + b).val).affine_eq_affine hsum
    (Scalar.val_add_nsmul CurvePoint.order_nsmul_base a b)

/-! ## The group -/

/-- For any points that can be obtained, the sum of two of them has valid coordinates of a point of the
    curve, which is their sum by the law of addition; sums are associative and commutative; `(0, 1)` is
    the identity, and every point has a negative, which can be obtained as well. The multiple by a scalar
    is the sum of as many copies as its representative says. As factors of the base point, scalars may be
    added, and the base point is its own multiple by `1`. The eightfold is the sum of eight copies, and
    vanishes when it is added `order` times. -/
theorem Obtained.group_laws (hP : P.Obtained) (hQ : Q.Obtained) (hR : R.Obtained) :
    (P + Q).Valid ∧ (P + Q).affine = P.affine.add Q.affine ∧
    (P + Q + R).affine = (P + (Q + R)).affine ∧ (P + Q).affine = (Q + P).affine ∧
    (identity.Obtained ∧ identity.affine = ⟨0, 1⟩ ∧ (P + identity).affine = P.affine) ∧
    (∃ N : Point, N.Obtained ∧ N.affine = P.affine.neg ∧ (P + N).affine = ⟨0, 1⟩) ∧
    (∀ a : Scalar, (P.multiple a.val).affine = (P.sum a.val).affine) ∧
    (∀ a : Scalar,
      (base.multiple a.val).affine = ((base.multiple (1 : Scalar).val).multiple a.val).affine) ∧
    (∀ a b : Scalar,
      (base.multiple (a + b).val).affine = (base.multiple a.val + base.multiple b.val).affine) ∧
    P.eightfold.affine = (P.sum 8).affine ∧ (P.eightfold.sum order).affine = ⟨0, 1⟩ := by
  have hidentity : identity.affine = ⟨0, 1⟩ := represents_identity.affine_eq
  refine ⟨(hP.add hQ).valid, hP.affine_add hQ, hP.affine_add_assoc hQ hR, hP.affine_add_comm hQ,
    ⟨obtained_identity, hidentity, hP.affine_add_identity⟩, ?_, fun a => hP.affine_multiple a.val,
    affine_multiple_base, affine_multiple_base_add, hP.affine_eightfold, ?_⟩
  · rw [← hidentity]
    exact hP.exists_neg
  · rw [← hidentity]
    exact hP.affine_sum_order_eightfold

/-- The case of a point of order `8` and the negative of the base point, as the multiple by `-1`, and of
    their sum, which is in neither of the two groups. -/
theorem group_laws_octant :
    (ofAffine CurvePoint.octant.affine).Obtained ∧ (base.multiple (-1 : Scalar).val).Obtained ∧
    (ofAffine CurvePoint.octant.affine + base.multiple (-1 : Scalar).val).Obtained ∧
    (ofAffine CurvePoint.octant.affine + base.multiple (-1 : Scalar).val + base.multiple 1).affine =
      CurvePoint.octant.affine ∧
    ((ofAffine CurvePoint.octant.affine).multiple (-1 : Scalar).val).affine =
      ((ofAffine CurvePoint.octant.affine).sum (-1 : Scalar).val).affine ∧
    ((ofAffine CurvePoint.octant.affine + base.multiple (-1 : Scalar).val).eightfold.sum order).affine =
      ⟨0, 1⟩ := by
  have hoctant := obtained_ofAffine .octant
  have hbase := Obtained.multipleBase (-1)
  have hsum := hoctant.add hbase
  obtain ⟨-, -, -, -, -, -, hmultiple, -⟩ := hoctant.group_laws hbase hsum
  obtain ⟨-, -, -, -, -, -, -, -, -, -, hvanishes⟩ := hsum.group_laws hoctant hbase
  exact ⟨hoctant, hbase, hsum, by decide +kernel, hmultiple _, hvanishes⟩

end EdwardsSignature.Point
