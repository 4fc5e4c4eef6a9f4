import EdwardsSignature.Proofs.Curve.Codec

/-!
# The grammar of encodings

Which 32 octets are the encoding of a point can be said in integers, with no reference to how points
are encoded or decoded (`Standard.Encodes`). Decoding accepts the octets of this grammar and no others,
and gives the coordinates that they are the encoding of. On the points of the curve, in whatever
coordinates they are computed, it is the inverse of encoding (`Point.decode?_grammar`).

Decoding may also take two steps (`Decompression.decode?`): a point is recovered first, perhaps from
octets with a `y` that is not reduced, or with a sign for `x = 0`, and is then encoded again and compared
with what it was recovered from. However lenient the first step is, the second one refuses all that is
not in the grammar, so that the two together decode the same (`Decompression.map_affine_decode?`).
-/

namespace EdwardsSignature

/-- The octets are the encoding of the point with the coordinates `x` and `y`, by the standard: `y` is
    in the lower 255 bits, and the last bit is the parity of `x`. The coefficient of the curve is
    `-121665 / 121666`. -/
structure Standard.Encodes (code : Octets 32) (x y : ℕ) : Prop where
  y_eq : y = code.toNat % 2 ^ 255
  y_lt : y < fieldPrime
  x_lt : x < fieldPrime
  parity_eq : x % 2 = code.toNat / 2 ^ 255
  equation : -(x : ZMod fieldPrime) ^ 2 + (y : ZMod fieldPrime) ^ 2 =
    1 + -121665 / 121666 * (x : ZMod fieldPrime) ^ 2 * (y : ZMod fieldPrime) ^ 2

/-! ## The grammar and the points of the curve -/

/-- The coefficient of the curve. -/
theorem toZMod_curveD : Residue.toZMod curveD = -121665 / 121666 := by
  have hnum : curveD * .ofNat fieldPrime 121666 + .ofNat fieldPrime 121665 = 0 := by decide +kernel
  have hden : ((121666 : ℕ) : ZMod fieldPrime) ≠ 0 := by
    rw [Ne, ZMod.natCast_eq_zero_iff]
    decide
  have hclass := congrArg Residue.toZMod hnum
  rw [Residue.toZMod_add, Residue.toZMod_mul, Residue.toZMod_ofNat, Residue.toZMod_ofNat,
    Residue.toZMod_zero] at hclass
  push_cast at hden hclass
  rw [eq_div_iff hden]
  linear_combination hclass

/-- The equation of the curve, on classes. -/
theorem Affine.onCurve_iff_toZMod {P : Affine} :
    P.OnCurve ↔ -(P.x.val : ZMod fieldPrime) ^ 2 + (P.y.val : ZMod fieldPrime) ^ 2 =
      1 + -121665 / 121666 * (P.x.val : ZMod fieldPrime) ^ 2 * (P.y.val : ZMod fieldPrime) ^ 2 := by
  have hcast : ∀ a : Fe, (a.val : ZMod fieldPrime) = Residue.toZMod a := fun _ => rfl
  rw [OnCurve, ← Residue.toZMod_injective.eq_iff, hcast, hcast, ← toZMod_curveD]
  simp only [Residue.toZMod_sub, Residue.toZMod_add, Residue.toZMod_mul, Residue.toZMod_one]
  constructor <;> intro h <;> linear_combination h

namespace Standard

variable {code : Octets 32} {x y : ℕ}

/-- The octets of the grammar are the encodings of the points of the curve. -/
theorem encodes_iff :
    Encodes code x y ↔
      ∃ A : CurvePoint, A.encode = code ∧ A.affine.x.val = x ∧ A.affine.y.val = y := by
  constructor
  · intro h
    obtain ⟨P, rfl, rfl⟩ : ∃ P : Affine, P.x.val = x ∧ P.y.val = y :=
      ⟨⟨⟨x, h.x_lt⟩, ⟨y, h.y_lt⟩⟩, rfl, rfl⟩
    exact ⟨⟨P, Affine.onCurve_iff_toZMod.2 h.equation⟩,
      Affine.encode_eq_iff.2 ⟨h.y_eq, h.parity_eq⟩, rfl, rfl⟩
  · rintro ⟨A, hcode, rfl, rfl⟩
    obtain ⟨hy, hx⟩ := Affine.encode_eq_iff.1 hcode
    exact ⟨hy, A.affine.y.isLt, A.affine.x.isLt, hx, Affine.onCurve_iff_toZMod.1 A.onCurve⟩

end Standard

/-! ## Decoding in two steps -/

/-- A way to recover points from octets, ahead of the check that these are the encoding of the point. It
    accepts all octets of the grammar, and may accept others. What it recovers is a point of the curve
    with the given `y`, reduced, and with the given sign, unless its `x` is `0`. -/
structure Decompression where
  /-- The point that is recovered. -/
  decompress : Octets 32 → Option Point
  valid {code : Octets 32} {P : Point} : decompress code = some P → P.Valid
  y_eq {code : Octets 32} {P : Point} : decompress code = some P →
    P.affine.y = .ofNat fieldPrime (code.toNat % 2 ^ 255)
  parity_eq {code : Octets 32} {P : Point} : decompress code = some P →
    P.affine.x = 0 ∨ P.affine.x.parity = code.toNat / 2 ^ 255
  ne_none {code : Octets 32} {x y : ℕ} : Standard.Encodes code x y → decompress code ≠ none

namespace Decompression

/-- The point that is recovered, if it is encoded by the octets that it was recovered from. -/
def decode? (D : Decompression) (code : Octets 32) : Option Point :=
  (D.decompress code).filter fun P => P.encode.agree code

variable {D : Decompression} {code : Octets 32} {P : Point}

theorem decode?_eq_some_iff :
    D.decode? code = some P ↔ D.decompress code = some P ∧ P.encode = code := by
  rw [decode?, Option.filter_eq_some_iff, Octets.agree_iff]

/-- What is decoded is a point with the given encoding. -/
theorem exists_represents_of_decode?_eq_some (h : D.decode? code = some P) :
    ∃ A : CurvePoint, P.Represents A ∧ A.encode = code := by
  obtain ⟨hP, hcode⟩ := decode?_eq_some_iff.1 h
  have hA := (D.valid hP).represents
  exact ⟨_, hA, hA.encode_eq.symm.trans hcode⟩

/-- From the encoding of a point, this point is recovered. -/
theorem represents_of_decompress_encode_eq_some {A : CurvePoint}
    (h : D.decompress A.encode = some P) : P.Represents A := by
  have hy : P.affine.y = A.affine.y := by
    have hmod : A.encode.toNat % 2 ^ 255 = A.affine.y.val := Affine.toNat_encode_mod A.affine
    rw [D.y_eq h, hmod, Residue.ofNat_val]
  have hsq : P.affine.x * P.affine.x = A.affine.x * A.affine.x := by
    rw [Affine.onCurve_iff_mul_self.1 (D.valid h).2.2, hy, ← Affine.onCurve_iff_mul_self.1 A.onCurve]
  -- Where `x = 0` is recovered, the point has it as well, and its sign does not matter.
  have hx : P.affine.x = A.affine.x := by
    rcases D.parity_eq h with hzero | hparity
    · rw [hzero, mul_zero, eq_comm, mul_self_eq_zero] at hsq
      rw [hzero, hsq]
    · have hdiv : A.encode.toNat / 2 ^ 255 = A.affine.x.parity := Affine.toNat_encode_div A.affine
      exact Fe.eq_of_parity_eq hsq (hparity.trans hdiv)
  exact Point.represents_iff.2 ⟨D.valid h, Affine.ext hx hy⟩

/-- Decoding in two steps gives the points that decoding in one gives. -/
theorem map_affine_decode? (D : Decompression) (code : Octets 32) :
    (D.decode? code).map Point.affine = (Point.decode? code).map Point.affine := by
  by_cases hcode : ∃ A : CurvePoint, A.encode = code
  · obtain ⟨A, rfl⟩ := hcode
    obtain ⟨P, hP⟩ := Option.ne_none_iff_exists'.1
      (D.ne_none (Standard.encodes_iff.2 ⟨A, rfl, rfl, rfl⟩))
    have hA := represents_of_decompress_encode_eq_some hP
    rw [decode?_eq_some_iff.2 ⟨hP, hA.encode_eq⟩, Point.decode?_encode, Option.map_some,
      Option.map_some, hA.affine_eq, (Point.represents_ofAffine A).affine_eq]
  · have hnone : D.decode? code = none := by
      rw [Option.eq_none_iff_forall_ne_some]
      intro P hP
      obtain ⟨A, -, hA⟩ := exists_represents_of_decode?_eq_some hP
      exact hcode ⟨A, hA⟩
    rw [hnone, Point.decode?_eq_none_iff.2 hcode]

end Decompression

/-- The point with the given `y`, reduced, and with the given sign, which does not matter for
    `x = 0`. -/
def Affine.decompress? (code : Octets 32) : Option Affine :=
  let y : Fe := .ofNat fieldPrime (code.toNat % signWeight)
  (recoverX? y).map fun x => if x.parity = code.toNat / signWeight then ⟨x, y⟩ else ⟨-x, y⟩

/-- What is recovered is a point of the curve with the given `y`, and with the given sign unless its
    `x` is `0`. -/
theorem Affine.decompress?_eq_some {code : Octets 32} {P : Affine} (h : decompress? code = some P) :
    P.OnCurve ∧ P.y = .ofNat fieldPrime (code.toNat % signWeight) ∧
      (P.x = 0 ∨ P.x.parity = code.toNat / signWeight) := by
  rw [decompress?, Option.map_eq_some_iff] at h
  obtain ⟨x, hx, rfl⟩ := h
  have hcurve := recoverX?_eq_some hx
  split_ifs with hparity
  · exact ⟨hcurve, rfl, .inr hparity⟩
  · refine ⟨hcurve.neg, rfl, ?_⟩
    rcases eq_or_ne x 0 with rfl | hne
    · exact .inl neg_zero
    · -- The sign is one of two bits, and the parity of `x` is the other one.
      have hsign : code.toNat / signWeight < 2 := Nat.div_lt_of_lt_mul code.toNat_lt
      have hneg := Fe.parity_neg hne
      have hle := Fe.parity_le_one x
      refine .inr (?_ : (-x).parity = code.toNat / signWeight)
      generalize code.toNat / signWeight = sign at *
      omega

/-- A decompression that accepts more than the grammar: `y` need not be reduced, and `0` may have a
    sign. -/
def Decompression.lenient : Decompression where
  decompress code := (Affine.decompress? code).map .ofAffine
  valid h := by
    obtain ⟨P, hP, rfl⟩ := Option.map_eq_some_iff.1 h
    exact (Point.represents_iff.1
      (Point.represents_ofAffine ⟨P, (Affine.decompress?_eq_some hP).1⟩)).1
  y_eq h := by
    obtain ⟨P, hP, rfl⟩ := Option.map_eq_some_iff.1 h
    obtain ⟨hcurve, hy, -⟩ := Affine.decompress?_eq_some hP
    rw [(Point.represents_ofAffine ⟨P, hcurve⟩).affine_eq]
    exact hy
  parity_eq h := by
    obtain ⟨P, hP, rfl⟩ := Option.map_eq_some_iff.1 h
    obtain ⟨hcurve, -, hx⟩ := Affine.decompress?_eq_some hP
    rw [(Point.represents_ofAffine ⟨P, hcurve⟩).affine_eq]
    exact hx
  ne_none h := by
    obtain ⟨A, rfl, -⟩ := Standard.encodes_iff.1 h
    rw [Ne, Option.map_eq_none_iff, Affine.decompress?, Option.map_eq_none_iff, CurvePoint.encode,
      Affine.toNat_encode_mod, Residue.ofNat_val]
    exact Affine.recoverX?_ne_none A.onCurve

/-! ## Decoding -/

namespace Point

variable {P : Point} {code : Octets 32}

/-- Encoding inverts decoding, for a point in any coordinates. -/
theorem Valid.exists_decode?_iff (hP : P.Valid) :
    (∃ Q, decode? code = some Q ∧ Q.affine = P.affine) ↔ P.encode = code := by
  rw [hP.represents.encode_eq]
  constructor
  · rintro ⟨Q, hQ, hsame⟩
    obtain ⟨A, rfl, rfl⟩ := decode?_eq_some_iff.1 hQ
    rw [(represents_ofAffine A).affine_eq] at hsame
    exact congrArg Affine.encode hsame.symm
  · rintro rfl
    exact ⟨_, decode?_encode _, (represents_ofAffine _).affine_eq⟩

/-- Decoding accepts the octets of the grammar, and these only. It gives a point of the curve, with the
    one pair of coordinates that the octets are the encoding of. A point of the curve, in whatever
    coordinates, is decoded from its encoding and from nothing else. Decoding in two steps gives the same
    points, whatever the decompression. -/
theorem decode?_grammar (code : Octets 32) :
    (decode? code ≠ none ↔ ∃ x y, Standard.Encodes code x y) ∧
    (∀ P, decode? code = some P → P.Valid ∧
      ∀ x y, Standard.Encodes code x y ↔ P.affine.x.val = x ∧ P.affine.y.val = y) ∧
    (∀ P : Point, P.Valid →
      ((∃ Q, decode? code = some Q ∧ Q.affine = P.affine) ↔ P.encode = code)) ∧
    ∀ D : Decompression, (D.decode? code).map affine = (decode? code).map affine := by
  refine ⟨?_, ?_, fun P hP => hP.exists_decode?_iff, fun D => D.map_affine_decode? code⟩
  · rw [Ne, decode?_eq_none_iff, not_not]
    constructor
    · rintro ⟨A, hA⟩
      exact ⟨_, _, Standard.encodes_iff.2 ⟨A, hA, rfl, rfl⟩⟩
    · rintro ⟨x, y, h⟩
      obtain ⟨A, hA, -⟩ := Standard.encodes_iff.1 h
      exact ⟨A, hA⟩
  · intro P hP
    obtain ⟨A, rfl, rfl⟩ := decode?_eq_some_iff.1 hP
    refine ⟨(represents_iff.1 (represents_ofAffine A)).1, fun x y => ?_⟩
    rw [(represents_ofAffine A).affine_eq, Standard.encodes_iff]
    constructor
    · rintro ⟨B, hB, hx, hy⟩
      obtain rfl := CurvePoint.encode_injective hB
      exact ⟨hx, hy⟩
    · rintro ⟨hx, hy⟩
      exact ⟨A, rfl, hx, hy⟩

/-- Two edges of the grammar, where a point could be recovered: `y` may not be the modulus, and `x = 0`
    may not have a sign. The base point, in coordinates that decoding does not give, is decoded from its
    encoding. -/
theorem decode?_grammar_edges :
    (∀ n ∈ [fieldPrime, 2 ^ 255 + 1],
      Decompression.lenient.decompress (.ofNat 32 n) ≠ none ∧
      Decompression.lenient.decode? (.ofNat 32 n) = none ∧
      ¬∃ x y, Standard.Encodes (.ofNat 32 n) x y) ∧
    (base + base.multiple 0).Valid ∧
    ∃ Q, decode? CurvePoint.base.encode = some Q ∧ Q.affine = (base + base.multiple 0).affine := by
  have hedges : ∀ n ∈ [fieldPrime, 2 ^ 255 + 1],
      Decompression.lenient.decompress (.ofNat 32 n) ≠ none ∧ decode? (.ofNat 32 n) = none := by
    decide +kernel
  refine ⟨fun n hn => ?_, ?_⟩
  · obtain ⟨hsome, hnone⟩ := hedges n hn
    obtain ⟨hiff, -, -, htwo⟩ := decode?_grammar (.ofNat 32 n)
    have hmap := htwo .lenient
    rw [hnone, Option.map_none, Option.map_eq_none_iff] at hmap
    exact ⟨hsome, hmap, mt hiff.2 (not_not.2 hnone)⟩
  · have hbase := represents_base.add (represents_base.multiple 0)
    rw [zero_nsmul, add_zero] at hbase
    have hvalid := (represents_iff.1 hbase).1
    exact ⟨hvalid, ((decode?_grammar _).2.2.1 _ hvalid).2 hbase.encode_eq⟩

end Point

end EdwardsSignature
