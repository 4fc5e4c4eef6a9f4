import EdwardsSignature.Proofs.Bytes.LittleEndian
import EdwardsSignature.Proofs.Curve.Order

/-!
# Scalars and integers

A scalar is an integer modulo `order`, and what is computed with scalars is what is computed with the
integers, reduced at the end (`Scalar.val_cast`). Of the 32 bytes that a scalar may be written in,
the canonical reading accepts those that stand for a number below `order`, and reads back what was
written (`Scalar.ofCanonical?_eq_some_iff`). The other readings accept everything, and agree with it
where it accepts (`Scalar.readings_agree`). As `order` is prime, scalars other than `0` have inverses
(`Scalar.mul_inverse_cancel`).

As factors of the base point and of eightfolds, integers may be replaced by their scalars
(`Scalar.val_nsmul_base`, `Scalar.val_nsmul_eight_nsmul`), and sums and products of scalars are those of
the factors (`Scalar.val_add_nsmul`, `Scalar.val_mul_nsmul`). Conversely, scalars that make a difference
make one on every eightfold but `0` (`Scalar.nsmul_eq_nsmul_right_iff`), and eightfolds that differ
still do so when multiplied, unless it is by the scalar `0` (`Scalar.nsmul_eq_nsmul_left_iff`).
-/

namespace EdwardsSignature.Scalar

/-! ## Readings -/

theorem ofWide_eq_cast (o : Octets 64) : ofWide o = (o.toNat : Scalar) := rfl

/-- The scalar of an integer is its remainder. -/
theorem val_cast (n : ℕ) : (n : Scalar).val = n % order := rfl

/-- A scalar is the scalar of its representative. -/
theorem cast_val (s : Scalar) : (s.val : Scalar) = s := Residue.ofNat_val s

/-- Integers have the same scalar if they are the same modulo `order`. -/
theorem cast_eq_cast_iff {m n : ℕ} : (m : Scalar) = n ↔ m ≡ n [MOD order] :=
  ⟨fun h => congrArg Residue.val h, fun h => Residue.ext_val h⟩

/-- Reduced integers are told apart by their scalars. -/
theorem eq_of_cast_eq_cast {m n : ℕ} (hm : m < order) (hn : n < order)
    (h : (m : Scalar) = n) : m = n :=
  Nat.ModEq.eq_of_lt_of_lt (cast_eq_cast_iff.1 h) hm hn

theorem toNat_toOctets (s : Scalar) : s.toOctets.toNat = s.val :=
  Octets.toNat_ofNat_of_lt (s.isLt.trans (by decide))

/-- The canonical reading inverts the writing. -/
theorem ofCanonical?_eq_some_iff {o : Octets 32} {s : Scalar} :
    ofCanonical? o = some s ↔ o = s.toOctets := by
  rw [ofCanonical?]
  constructor
  · intro h
    split at h
    · cases h
      exact (Octets.ofNat_toNat o).symm
    · cases h
  · rintro rfl
    have hlt : s.toOctets.toNat < order := toNat_toOctets s ▸ s.isLt
    rw [dif_pos hlt]
    exact congrArg some (Residue.ext_val (toNat_toOctets s))

/-- The canonical reading refuses the numbers from `order` on. -/
theorem ofCanonical?_eq_none_iff {o : Octets 32} : ofCanonical? o = none ↔ order ≤ o.toNat := by
  rw [ofCanonical?]
  split
  · next h => exact iff_of_false (Option.some_ne_none _) (not_le.2 h)
  · next h => exact iff_of_true rfl (not_lt.1 h)

theorem ofCanonical?_toOctets (s : Scalar) : ofCanonical? s.toOctets = some s :=
  ofCanonical?_eq_some_iff.2 rfl

/-- What the canonical reading accepts is reduced, so that reducing it changes nothing. -/
theorem ofOctets_toOctets (s : Scalar) : ofOctets s.toOctets = s := by
  rw [ofOctets, toNat_toOctets, Residue.ofNat_val]

/-- Of 32 bytes, the reading for 64 bytes is the same as the one for 32. -/
theorem ofWide_join_zero (o : Octets 32) : ofWide (o.join (.zero 32)) = ofOctets o := by
  rw [ofWide, Octets.toNat_join_zero, ofOctets]

theorem toNat_orderOctets : orderOctets.toNat = order :=
  Octets.toNat_ofNat_of_lt (by decide)

/-- The canonical reading accepts exactly the numbers below `order`, the number of the bytes listed
    here, and what it accepts is the writing of what it reads; it reads back all that is written. The
    readings that reduce accept everything: what is read of 64 bytes is written as the remainder of
    the number that they stand for, and 32 bytes are read as if zeros followed. Where the canonical
    reading accepts, it reads the same scalar as they do. -/
theorem readings_agree :
    orderOctets.bytes =
      [0xed, 0xd3, 0xf5, 0x5c, 0x1a, 0x63, 0x12, 0x58, 0xd6, 0x9c, 0xf7, 0xa2, 0xde, 0xf9, 0xde, 0x14,
        0, 0, 0, 0, 0, 0, 0, 0, 0, 0, 0, 0, 0, 0, 0, 0x10] ∧
    orderOctets.toNat = order ∧
    (∀ o : Octets 32,
      ((ofCanonical? o).isSome ↔ o.toNat < order) ∧
      ofOctets o = ofWide (o.join (.zero 32)) ∧
      ∀ s, ofCanonical? o = some s → s.toOctets = o ∧ ofOctets o = s) ∧
    (∀ s : Scalar, ofCanonical? s.toOctets = some s) ∧
    ∀ o : Octets 64,
      (ofWide o).toOctets = .ofNat 32 (o.toNat % order) ∧
      (ofWide o).toOctets.toNat = o.toNat % order := by
  refine ⟨by decide +kernel, toNat_orderOctets,
    fun o => ⟨?_, (ofWide_join_zero o).symm, fun s hs => ?_⟩, ofCanonical?_toOctets,
    fun o => ⟨rfl, toNat_toOctets _⟩⟩
  · rw [← Option.ne_none_iff_isSome, Ne, ofCanonical?_eq_none_iff, not_le]
  · obtain rfl := ofCanonical?_eq_some_iff.1 hs
    exact ⟨rfl, ofOctets_toOctets s⟩

/-- The case of the greatest scalar. -/
theorem readings_agree_neg_one :
    ofCanonical? (.ofNat 32 (order - 1)) = some (-1) ∧
    (-1 : Scalar).toOctets = .ofNat 32 (order - 1) ∧ ofOctets (.ofNat 32 (order - 1)) = -1 := by
  have hread : ofCanonical? (.ofNat 32 (order - 1)) = some (-1) := by decide +kernel
  obtain ⟨-, -, hreadings, -⟩ := readings_agree
  obtain ⟨-, -, hcanonical⟩ := hreadings (.ofNat 32 (order - 1))
  exact ⟨hread, hcanonical (-1) hread⟩

-- From `order` on, the readings differ.
example : ofCanonical? orderOctets = none ∧ ofOctets orderOctets = 0 := by decide +kernel

/-! ## Inverses -/

/-- The inverse of a scalar other than `0`. -/
def inverse (a : Scalar) : Scalar := a.power (order - 2)

instance : Inv Scalar := ⟨inverse⟩

theorem mul_inverse_cancel {a : Scalar} (ha : a ≠ 0) : a * a⁻¹ = 1 := Residue.mul_power_sub_two ha

/-! ## Factors -/

/-- As a factor of the base point, an integer may be reduced. -/
theorem val_nsmul_base (n : ℕ) : (n : Scalar).val • CurvePoint.base = n • CurvePoint.base :=
  CurvePoint.nsmul_mod_order CurvePoint.order_nsmul_base n

/-- As a factor of an eightfold, an integer may be reduced. -/
theorem val_nsmul_eight_nsmul (n : ℕ) (A : CurvePoint) : (n : Scalar).val • 8 • A = n • 8 • A :=
  CurvePoint.nsmul_mod_order (CurvePoint.order_nsmul_eight_nsmul A) n

/-- Multiples of the base point are told apart by the scalars. -/
theorem val_nsmul_base_eq_iff {a b : Scalar} :
    a.val • CurvePoint.base = b.val • CurvePoint.base ↔ a = b := by
  rw [nsmul_eq_nsmul_iff_modEq, CurvePoint.addOrderOf_base, ← cast_eq_cast_iff, cast_val, cast_val]

section

variable {A : CurvePoint} (hA : order • A = 0)

include hA

/-- A sum of scalars, as a factor. -/
theorem val_add_nsmul (a b : Scalar) : (a + b).val • A = a.val • A + b.val • A := by
  rw [Residue.val_add, CurvePoint.nsmul_mod_order hA, add_nsmul]

/-- A product of scalars, as a factor. -/
theorem val_mul_nsmul (a b : Scalar) : (a * b).val • A = a.val • b.val • A := by
  rw [Residue.val_mul, CurvePoint.nsmul_mod_order hA, mul_nsmul']

end

/-- Multiples of an eightfold are told apart by the scalars of the factors, but if it is `0`. -/
theorem nsmul_eq_nsmul_right_iff {m n : ℕ} {A : CurvePoint} :
    m • 8 • A = n • 8 • A ↔ 8 • A = 0 ∨ (m : Scalar) = n := by
  by_cases h : 8 • A = 0
  · rw [h, nsmul_zero, nsmul_zero]
    exact iff_of_true rfl (.inl rfl)
  · rw [nsmul_eq_nsmul_iff_modEq, CurvePoint.addOrderOf_eight_nsmul h, cast_eq_cast_iff]
    exact (or_iff_right h).symm

/-- Multiplying eightfolds keeps them apart, but if it is by the scalar `0`. -/
theorem nsmul_eq_nsmul_left_iff {n : ℕ} {A B : CurvePoint} :
    n • 8 • A = n • 8 • B ↔ 8 • A = 8 • B ∨ (n : Scalar) = 0 := by
  have h := nsmul_eq_nsmul_right_iff (m := n) (n := 0) (A := A - B)
  rwa [zero_nsmul, nsmul_sub, nsmul_sub, sub_eq_zero, sub_eq_zero, Nat.cast_zero] at h

end EdwardsSignature.Scalar
