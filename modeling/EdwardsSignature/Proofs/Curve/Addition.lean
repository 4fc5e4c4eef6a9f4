import EdwardsSignature.Curve.Affine
import EdwardsSignature.Proofs.Curve.Field

/-!
# The law of addition

The points of the curve are closed under addition, and addition is associative on them. This rests on
two things:

* *completeness* (`Affine.denominators_ne_zero`): since `-1` is a square and the coefficient `d` of
  the curve is not, the denominators `1 + e` and `1 - e` of a sum vanish for no two points of the
  curve;
* polynomial identities modulo the equations of the curve (`sum_identity`, `rotation_identity`).

Associativity is proved for the first coordinate only. The second one follows: adding the point
`(i, 0)` for a square root `i` of `-1`, which is `Affine.turn`, exchanges the coordinates, and goes
through a sum (`Affine.turn_add`).
-/

namespace EdwardsSignature

/-! ## Identities -/

section Identities

variable {R : Type*} [CommRing R] {d x₁ y₁ x₂ y₂ x₃ y₃ : R}

/-- The numerators and denominators of the sum of two points of the curve satisfy the equation of the
    curve. -/
theorem sum_identity (h₁ : y₁ * y₁ - x₁ * x₁ = 1 + d * (x₁ * x₁) * (y₁ * y₁))
    (h₂ : y₂ * y₂ - x₂ * x₂ = 1 + d * (x₂ * x₂) * (y₂ * y₂)) {a b e : R}
    (ha : a = x₁ * y₂ + x₂ * y₁) (hb : b = y₁ * y₂ + x₁ * x₂)
    (he : e = d * (x₁ * x₂) * (y₁ * y₂)) :
    (b * (1 + e)) ^ 2 - (a * (1 - e)) ^ 2 = ((1 + e) * (1 - e)) ^ 2 + d * a ^ 2 * b ^ 2 := by
  subst ha hb he
  set u₁ := y₁ * y₁ - x₁ * x₁
  set u₂ := y₂ * y₂ - x₂ * x₂
  set w₁ := 1 + d * (x₁ * x₁) * (y₁ * y₁)
  set w₂ := 1 + d * (x₂ * x₂) * (y₂ * y₂)
  linear_combination
    (u₂ * (1 + (d * (x₁ * x₂) * (y₁ * y₂)) ^ 2) - d * (x₂ * y₂) ^ 2 * (u₁ + w₁)) * h₁ +
      (w₁ * (1 + (d * (x₁ * x₂) * (y₁ * y₂)) ^ 2) - d * (x₁ * y₁) ^ 2 * (u₂ + w₂)) * h₂

/-- The first coordinates of `(P₁ + P₂) + P₃` and `(P₂ + P₃) + P₁`, as fractions, are the same. -/
theorem rotation_identity (h₁ : y₁ * y₁ - x₁ * x₁ = 1 + d * (x₁ * x₁) * (y₁ * y₁))
    (h₂ : y₂ * y₂ - x₂ * x₂ = 1 + d * (x₂ * x₂) * (y₂ * y₂))
    (h₃ : y₃ * y₃ - x₃ * x₃ = 1 + d * (x₃ * x₃) * (y₃ * y₃)) {a b e a' b' e' : R}
    (ha : a = x₁ * y₂ + x₂ * y₁) (hb : b = y₁ * y₂ + x₁ * x₂)
    (he : e = d * (x₁ * x₂) * (y₁ * y₂)) (ha' : a' = x₂ * y₃ + x₃ * y₂)
    (hb' : b' = y₂ * y₃ + x₂ * x₃) (he' : e' = d * (x₂ * x₃) * (y₂ * y₃)) :
    (a * (1 - e) * y₃ + x₃ * (b * (1 + e))) *
        ((1 + e') * (1 - e') + d * (a' * x₁) * (b' * y₁)) =
      (a' * (1 - e') * y₁ + x₁ * (b' * (1 + e'))) *
        ((1 + e) * (1 - e) + d * (a * x₃) * (b * y₃)) := by
  subst ha hb he ha' hb' he'
  -- The coefficients are the quotients of the difference by the equations of the three points.
  linear_combination
    d * x₂ * y₂ * (x₂ ^ 3 * (1 + d * y₂ ^ 2) * (x₃ * y₃ * (y₁ * y₃ - x₁ * x₃)) +
        y₂ ^ 3 * (1 - d * x₂ ^ 2) * (x₃ * y₃ * (x₁ * y₃ - y₁ * x₃)) -
        x₂ * y₂ * (x₃ * (x₃ ^ 2 + 1) * (y₁ * y₂ + x₁ * x₂) -
          y₃ * (y₃ ^ 2 - 1) * (x₁ * y₂ + x₂ * y₁))) * h₁ +
      d * x₂ * y₂ * (x₃ * y₃ * (x₁ * (x₁ ^ 2 + 1) * (y₂ * y₃ + x₂ * x₃) +
          y₁ * (y₁ ^ 2 - 1) * (x₂ * y₃ + x₃ * y₂)) -
        x₁ * y₁ * (x₃ * (x₃ ^ 2 + 1) * (y₁ * y₂ + x₁ * x₂) +
          y₃ * (y₃ ^ 2 - 1) * (x₁ * y₂ + x₂ * y₁))) * h₂ -
      d * x₂ * y₂ * (x₂ ^ 3 * (1 + d * y₂ ^ 2) * (x₁ * y₁ * (y₁ * y₃ - x₁ * x₃)) -
        y₂ ^ 3 * (1 - d * x₂ ^ 2) * (x₁ * y₁ * (x₁ * y₃ - y₁ * x₃)) -
        x₂ * y₂ * (x₁ * (x₁ ^ 2 + 1) * (y₂ * y₃ + x₂ * x₃) -
          y₁ * (y₁ ^ 2 - 1) * (x₂ * y₃ + x₃ * y₂))) * h₃

end Identities

/-! ## Completeness -/

theorem not_isSquare_curveD : ¬IsSquare curveD := Fe.sqrt?_eq_none_iff.1 (by decide +kernel)

/-- A square is `d` times a square only if both are `0`. -/
theorem eq_zero_of_mul_self_eq {a b : Fe} (h : a * a = curveD * (b * b)) : b = 0 := by
  by_contra hb
  refine not_isSquare_curveD ⟨a / b, ?_⟩
  rw [div_mul_div_comm, h, mul_div_cancel_right₀ _ (mul_ne_zero hb hb)]

namespace Affine

/-- By how much the denominators of a sum differ from `1`. -/
def excess (P Q : Affine) : Fe := curveD * (P.x * Q.x) * (P.y * Q.y)

theorem add_x (P Q : Affine) : (P.add Q).x = (P.x * Q.y + Q.x * P.y) / (1 + P.excess Q) := rfl

theorem add_y (P Q : Affine) : (P.add Q).y = (P.y * Q.y + P.x * Q.x) / (1 - P.excess Q) := rfl

@[ext]
theorem ext {P Q : Affine} (hx : P.x = Q.x) (hy : P.y = Q.y) : P = Q := by
  cases P
  cases Q
  cases hx
  cases hy
  rfl

variable {P Q R : Affine}

theorem OnCurve.eq (hP : P.OnCurve) :
    P.y * P.y - P.x * P.x = 1 + curveD * (P.x * P.x) * (P.y * P.y) := hP

/-- If the excess of two points of the curve squared to `1`, then `d` times a square would be a square,
    and so vanish, with either sign `ε`. -/
theorem mul_eq_zero_of_excess_mul_self_eq_one (hP : P.OnCurve) (hQ : Q.OnCurve)
    (he : P.excess Q * P.excess Q = 1) {ε : Fe} (hε : ε * ε = 1) :
    P.x * P.y * (Fe.sqrtNegOne * Q.x + ε * Q.y) = 0 := by
  have hi := Fe.sqrtNegOne_mul_self
  apply eq_zero_of_mul_self_eq (a := Fe.sqrtNegOne * P.x + ε * P.excess Q * P.y)
  simp only [excess] at *
  linear_combination hP.eq - curveD * (P.x * P.y) ^ 2 * hQ.eq + (ε ^ 2 * P.y ^ 2 - 1) * he +
    (P.x ^ 2 - curveD * (P.x * P.y) ^ 2 * Q.x ^ 2) * hi +
    (P.y ^ 2 - curveD * (P.x * P.y) ^ 2 * Q.y ^ 2) * hε

/-- For two points of the curve, the excess does not square to `1`. -/
theorem excess_mul_self_ne_one (hP : P.OnCurve) (hQ : Q.OnCurve) :
    P.excess Q * P.excess Q ≠ 1 := by
  intro he
  have hneg : (-1 : Fe) * -1 = 1 := by ring
  have hplus := mul_eq_zero_of_excess_mul_self_eq_one hP hQ he (one_mul 1)
  have hminus := mul_eq_zero_of_excess_mul_self_eq_one hP hQ he hneg
  have htwice : 2 * (P.x * P.y * Q.y) = 0 := by linear_combination hplus - hminus
  have hzero : P.x * P.y * Q.y = 0 := (mul_eq_zero.1 htwice).resolve_left Fe.two_ne_zero
  have hexcess : P.excess Q = 0 := by
    rw [excess]
    linear_combination curveD * Q.x * hzero
  rw [hexcess, mul_zero] at he
  exact zero_ne_one he

/-- The denominators of a sum of two points of the curve do not vanish. -/
theorem denominators_ne_zero (hP : P.OnCurve) (hQ : Q.OnCurve) :
    1 + P.excess Q ≠ 0 ∧ 1 - P.excess Q ≠ 0 := by
  have hne := excess_mul_self_ne_one hP hQ
  constructor <;> refine fun h => hne ?_
  · linear_combination (P.excess Q - 1) * h
  · linear_combination -(P.excess Q + 1) * h

/-! ## Closure -/

theorem onCurve_identity : identity.OnCurve := by decide +kernel

theorem OnCurve.neg (hP : P.OnCurve) : P.neg.OnCurve := by
  have h := hP.eq
  rw [OnCurve, Affine.neg]
  linear_combination h

/-- The sum of two points of the curve is a point of the curve. -/
theorem OnCurve.add (hP : P.OnCurve) (hQ : Q.OnCurve) : (P.add Q).OnCurve := by
  obtain ⟨hu, hv⟩ := denominators_ne_zero hP hQ
  have h := sum_identity hP.eq hQ.eq (a := P.x * Q.y + Q.x * P.y) (by ring)
    (b := P.y * Q.y + P.x * Q.x) rfl (e := P.excess Q) rfl
  rw [OnCurve, add_x, add_y]
  field_simp
  linear_combination h

/-! ## Associativity -/

protected theorem add_comm (P Q : Affine) : P.add Q = Q.add P := by
  have he : P.excess Q = Q.excess P := by
    rw [excess, excess]
    ring
  ext
  · rw [add_x, add_x, he, add_comm]
  · rw [add_y, add_y, he, mul_comm P.y, mul_comm P.x]

/-- The denominator of the first coordinate of `(P + Q) + R`, as a fraction in the coordinates of the
    three points. -/
def denominator (P Q R : Affine) : Fe :=
  (1 + P.excess Q) * (1 - P.excess Q) +
    curveD * ((P.x * Q.y + Q.x * P.y) * R.x) * ((P.y * Q.y + P.x * Q.x) * R.y)

/-- The excess of the sum of two points and a third one. -/
theorem one_add_excess_add (hP : P.OnCurve) (hQ : Q.OnCurve) :
    1 + (P.add Q).excess R = denominator P Q R / ((1 + P.excess Q) * (1 - P.excess Q)) := by
  obtain ⟨hu, hv⟩ := denominators_ne_zero hP hQ
  rw [excess, add_x, add_y, denominator]
  field_simp

theorem denominator_ne_zero (hP : P.OnCurve) (hQ : Q.OnCurve) (hR : R.OnCurve) :
    denominator P Q R ≠ 0 := by
  intro h
  have hne := (denominators_ne_zero (hP.add hQ) hR).1
  rw [one_add_excess_add hP hQ, h, zero_div] at hne
  exact hne rfl

/-- The first coordinate of `(P + Q) + R`. -/
theorem add_add_x (hP : P.OnCurve) (hQ : Q.OnCurve) :
    ((P.add Q).add R).x =
      ((P.x * Q.y + Q.x * P.y) * (1 - P.excess Q) * R.y +
        R.x * ((P.y * Q.y + P.x * Q.x) * (1 + P.excess Q))) / denominator P Q R := by
  obtain ⟨hu, hv⟩ := denominators_ne_zero hP hQ
  rw [add_x (P.add Q), one_add_excess_add hP hQ, add_x, add_y]
  field_simp

/-- The three points may be taken in turn, as far as the first coordinate is concerned. -/
theorem add_add_x_rotate (hP : P.OnCurve) (hQ : Q.OnCurve) (hR : R.OnCurve) :
    ((P.add Q).add R).x = ((Q.add R).add P).x := by
  rw [add_add_x hP hQ, add_add_x hQ hR,
    div_eq_div_iff (denominator_ne_zero hP hQ hR) (denominator_ne_zero hQ hR hP)]
  exact rotation_identity hP.eq hQ.eq hR.eq rfl rfl rfl rfl rfl rfl

/-- The point with the coordinates exchanged, up to the factor `i`: the sum with `(i, 0)`. -/
def turn (P : Affine) : Affine := ⟨Fe.sqrtNegOne * P.y, Fe.sqrtNegOne * P.x⟩

theorem OnCurve.turn (hP : P.OnCurve) : P.turn.OnCurve := by
  have hi := Fe.sqrtNegOne_mul_self
  have h := hP.eq
  rw [OnCurve, Affine.turn]
  linear_combination h + (P.x ^ 2 - P.y ^ 2 -
    curveD * P.x ^ 2 * P.y ^ 2 * (Fe.sqrtNegOne ^ 2 - 1)) * hi

/-- Turning goes through a sum. -/
theorem turn_add (P Q : Affine) : P.turn.add Q = (P.add Q).turn := by
  have he : P.turn.excess Q = -P.excess Q := by
    simp only [excess, turn]
    linear_combination curveD * P.x * Q.x * P.y * Q.y * Fe.sqrtNegOne_mul_self
  ext
  · rw [add_x, he, turn, turn, add_y]
    ring
  · rw [add_y, he, turn, turn, add_x]
    ring

/-- Addition is associative on the curve. -/
protected theorem add_assoc (hP : P.OnCurve) (hQ : Q.OnCurve) (hR : R.OnCurve) :
    (P.add Q).add R = P.add (Q.add R) := by
  ext
  · rw [add_add_x_rotate hP hQ hR, Affine.add_comm]
  · -- The second coordinate is, up to the factor `i`, the first one of the turned sums.
    have hi : Fe.sqrtNegOne ≠ 0 := by decide +kernel
    have hturn : (((P.add Q).add R).turn).x = ((P.add (Q.add R)).turn).x := by
      rw [← turn_add, ← turn_add, ← turn_add, add_add_x_rotate hP.turn hQ hR, Affine.add_comm]
    exact mul_left_cancel₀ hi hturn

theorem identity_add (P : Affine) : identity.add P = P := by
  have he : identity.excess P = 0 := by
    rw [excess, identity]
    ring
  ext
  · rw [add_x, he, identity]
    ring
  · rw [add_y, he, identity]
    ring

/-- A point of the curve and its negative add up to the identity. -/
theorem neg_add (hP : P.OnCurve) : P.neg.add P = identity := by
  obtain ⟨-, hv⟩ := denominators_ne_zero hP.neg hP
  have hnum : P.y * P.y + -P.x * P.x = 1 - P.neg.excess P := by
    simp only [excess, neg]
    linear_combination hP.eq
  ext
  · rw [add_x, neg, identity]
    ring
  · rw [add_y, identity, ← hnum]
    exact div_self (hnum ▸ hv)

end Affine

/-! ## The group -/

/-- A point of the curve. -/
@[ext]
structure CurvePoint where
  /-- The point of the plane. -/
  affine : Affine
  /-- It is a point of the curve. -/
  onCurve : affine.OnCurve
deriving DecidableEq

namespace CurvePoint

instance : Zero CurvePoint := ⟨.identity, Affine.onCurve_identity⟩

instance : Add CurvePoint := ⟨fun P Q => ⟨P.affine.add Q.affine, P.onCurve.add Q.onCurve⟩⟩

instance : Neg CurvePoint := ⟨fun P => ⟨P.affine.neg, P.onCurve.neg⟩⟩

@[simp] theorem affine_zero : (0 : CurvePoint).affine = .identity := rfl

@[simp] theorem affine_add (P Q : CurvePoint) : (P + Q).affine = P.affine.add Q.affine := rfl

@[simp] theorem affine_neg (P : CurvePoint) : (-P).affine = P.affine.neg := rfl

/-- The points of the curve are a commutative group under the law of addition. -/
instance : AddCommGroup CurvePoint where
  add_assoc P Q R := CurvePoint.ext (Affine.add_assoc P.onCurve Q.onCurve R.onCurve)
  zero_add P := CurvePoint.ext (Affine.identity_add P.affine)
  add_zero P := CurvePoint.ext ((Affine.add_comm _ _).trans (Affine.identity_add P.affine))
  nsmul := nsmulRec
  zsmul := zsmulRec
  neg_add_cancel P := CurvePoint.ext (Affine.neg_add P.onCurve)
  add_comm P Q := CurvePoint.ext (Affine.add_comm P.affine Q.affine)

/-- The base point. -/
def base : CurvePoint := ⟨.base, by decide +kernel⟩

end CurvePoint

end EdwardsSignature
