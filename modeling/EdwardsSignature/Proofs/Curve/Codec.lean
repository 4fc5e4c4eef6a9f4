import EdwardsSignature.Proofs.Bytes.Agreement
import EdwardsSignature.Proofs.Curve.Coordinates
import EdwardsSignature.Proofs.Bytes.LittleEndian

/-!
# The codec of points

Decoding is the inverse of encoding on the curve (`Affine.decode?_eq_some_iff`): it accepts the
encodings of the points of the curve and nothing else, and each point has just one. Behind this is
that `y` determines the square of `x` on the curve (`Affine.onCurve_iff_mul_self`), and that `x` is
told from `-x` by its parity, unless both are `0`.

As the encoding of coordinates is that of the point they represent, coordinates that are encoded
alike represent the same point (`Point.same_iff`).
-/

namespace EdwardsSignature

namespace Affine

variable {P Q : Affine} {code : Octets 32}

/-! ## The square of the first coordinate -/

/-- For no `y` does the curve have a point at infinity. -/
theorem curveD_mul_add_one_ne_zero (y : Fe) : curveD * (y * y) + 1 ≠ 0 := by
  intro h
  have hy : y = 0 := by
    apply eq_zero_of_mul_self_eq (a := Fe.sqrtNegOne)
    linear_combination Fe.sqrtNegOne_mul_self - h
  rw [hy, mul_zero, mul_zero, zero_add] at h
  exact one_ne_zero h

/-- A point is on the curve if `x²` is what `y` determines. -/
theorem onCurve_iff_mul_self :
    P.OnCurve ↔ P.x * P.x = (P.y * P.y - 1) / (curveD * (P.y * P.y) + 1) := by
  rw [eq_div_iff (curveD_mul_add_one_ne_zero P.y), OnCurve]
  constructor <;> intro h <;> linear_combination -h

/-- On the curve, `y` and the parity of `x` determine a point. -/
theorem eq_of_y_eq_of_parity_eq (hP : P.OnCurve) (hQ : Q.OnCurve) (hy : P.y = Q.y)
    (hx : P.x.parity = Q.x.parity) : P = Q := by
  rw [onCurve_iff_mul_self] at hP hQ
  exact Affine.ext (Fe.eq_of_parity_eq (hP.trans (hy ▸ hQ.symm)) hx) hy

/-! ## Encodings as numbers -/

theorem toNat_encode (P : Affine) : P.encode.toNat = P.y.val + signWeight * P.x.parity := by
  have hy : P.y.val < fieldPrime := P.y.isLt
  have hx := Fe.parity_le_one P.x
  refine Octets.toNat_ofNat_of_lt ?_
  unfold signWeight fieldPrime at *
  omega

theorem toNat_encode_mod (P : Affine) : P.encode.toNat % signWeight = P.y.val := by
  have hlt : P.y.val < signWeight := P.y.isLt.trans (by decide)
  rw [toNat_encode, Nat.add_mul_mod_self_left, Nat.mod_eq_of_lt hlt]

theorem toNat_encode_div (P : Affine) : P.encode.toNat / signWeight = P.x.parity := by
  have hlt : P.y.val < signWeight := P.y.isLt.trans (by decide)
  rw [toNat_encode, Nat.add_mul_div_left _ _ (by decide), Nat.div_eq_of_lt hlt, zero_add]

/-- What has the encoding of a point as its number is the encoding. -/
theorem encode_eq_iff :
    P.encode = code ↔ P.y.val = code.toNat % signWeight ∧ P.x.parity = code.toNat / signWeight := by
  constructor
  · rintro rfl
    exact ⟨(toNat_encode_mod P).symm, (toNat_encode_div P).symm⟩
  · rintro ⟨hy, hx⟩
    apply Octets.toNat_inj
    rw [toNat_encode, hy, hx, Nat.mod_add_div]

/-! ## Decoding -/

/-- An `x` is found for every `y` that there is a point with, and gives a point. -/
theorem recoverX?_eq_some {y x : Fe} (h : recoverX? y = some x) : (⟨x, y⟩ : Affine).OnCurve :=
  onCurve_iff_mul_self.2 (Fe.mul_self_of_sqrt?_eq_some h)

theorem recoverX?_ne_none (hP : P.OnCurve) : recoverX? P.y ≠ none := by
  intro h
  exact Fe.sqrt?_eq_none_iff.1 h ⟨P.x, (onCurve_iff_mul_self.1 hP).symm⟩

/-- Decoding accepts the encodings of the points of the curve, and gives the points. -/
theorem decode?_eq_some_iff : decode? code = some P ↔ P.OnCurve ∧ P.encode = code := by
  rw [encode_eq_iff, decode?]
  constructor
  · intro h
    split at h
    · next hlt =>
      simp only at h
      split at h
      · cases h
      · next x hx =>
        have hcurve := recoverX?_eq_some hx
        split_ifs at h with hpos hneg
        · cases h
          exact ⟨hcurve, rfl, hpos⟩
        · cases h
          exact ⟨hcurve.neg, rfl, hneg⟩
    · cases h
  · rintro ⟨hP, hy, hx⟩
    have hlt : code.toNat % signWeight < fieldPrime := hy ▸ P.y.isLt
    have hyP : (⟨code.toNat % signWeight, hlt⟩ : Fe) = P.y := Residue.ext_val hy.symm
    rw [dif_pos hlt]
    dsimp only
    rw [hyP, ← hx]
    split
    · next h => exact absurd h (recoverX?_ne_none hP)
    · next x h =>
      -- What is found is the `x` of the point or its negative.
      have hsq : x * x = P.x * P.x :=
        (onCurve_iff_mul_self.1 (recoverX?_eq_some h)).trans (onCurve_iff_mul_self.1 hP).symm
      rcases mul_self_eq_mul_self_iff.1 hsq with rfl | rfl
      · rw [if_pos rfl]
      · split_ifs with hpar
        · rw [Fe.eq_of_parity_eq hsq hpar]
        · rw [neg_neg]
        · rename_i hne
          rw [neg_neg] at hne
          exact absurd rfl hne

end Affine

/-! ## Points of the curve -/

namespace CurvePoint

/-- The encoding of a point of the curve. -/
def encode (A : CurvePoint) : Octets 32 := A.affine.encode

/-- Points that are encoded alike are the same. -/
theorem encode_injective : Function.Injective encode := by
  intro A B h
  obtain ⟨hy, hx⟩ := Affine.encode_eq_iff.1 h
  have hy' : A.affine.y = B.affine.y := Residue.ext_val (hy.trans (Affine.toNat_encode_mod _))
  have hx' := hx.trans (Affine.toNat_encode_div B.affine)
  exact CurvePoint.ext (Affine.eq_of_y_eq_of_parity_eq A.onCurve B.onCurve hy' hx')

end CurvePoint

namespace Point

variable {P Q : Point} {A B : CurvePoint} {code : Octets 32}

/-- Coordinates are encoded as the point that they represent. -/
theorem Represents.encode_eq (h : P.Represents A) : P.encode = A.encode := by
  rw [Point.encode, h.affine_eq, CurvePoint.encode]

/-- What is decoded are the coordinates of a point with the given encoding. -/
theorem decode?_eq_some_iff :
    decode? code = some P ↔ ∃ A : CurvePoint, A.encode = code ∧ P = ofAffine A.affine := by
  rw [decode?, Option.map_eq_some_iff]
  constructor
  · rintro ⟨a, ha, rfl⟩
    obtain ⟨hcurve, hcode⟩ := Affine.decode?_eq_some_iff.1 ha
    exact ⟨⟨a, hcurve⟩, hcode, rfl⟩
  · rintro ⟨A, hcode, rfl⟩
    exact ⟨A.affine, Affine.decode?_eq_some_iff.2 ⟨A.onCurve, hcode⟩, rfl⟩

/-- Nothing is decoded from what is not the encoding of a point of the curve. -/
theorem decode?_eq_none_iff : decode? code = none ↔ ¬∃ A : CurvePoint, A.encode = code := by
  rw [Option.eq_none_iff_forall_ne_some]
  constructor
  · rintro h ⟨A, hA⟩
    exact h _ (decode?_eq_some_iff.2 ⟨A, hA, rfl⟩)
  · rintro h P hP
    obtain ⟨A, hA, -⟩ := decode?_eq_some_iff.1 hP
    exact h ⟨A, hA⟩

theorem decode?_encode (A : CurvePoint) : decode? A.encode = some (ofAffine A.affine) :=
  decode?_eq_some_iff.2 ⟨A, rfl, rfl⟩

theorem decode?_encode_ne_none (A : CurvePoint) : decode? A.encode ≠ none :=
  decode?_encode A ▸ Option.some_ne_none _

/-- Coordinates are the same, as their encodings tell, if they represent the same point. -/
theorem same_iff (hP : P.Represents A) (hQ : Q.Represents B) : P.same Q = true ↔ A = B := by
  rw [same, Octets.agree_iff, hP.encode_eq, hQ.encode_eq, CurvePoint.encode_injective.eq_iff]

end Point

end EdwardsSignature
