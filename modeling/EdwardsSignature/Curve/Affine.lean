import EdwardsSignature.Curve.Field

/-!
# The curve

The *curve* is the set of the points `(x, y)` of the plane over the field with
`y² - x² = 1 + d x² y²`. Its points form a group under one law of addition (`Affine.add`): as `-1` is a
square and `d` is not, its denominators vanish for no two points of the curve. The identity is
`(0, 1)`, and the negative of `(x, y)` is `(-x, y)`.
-/

namespace EdwardsSignature

/-- The coefficient `d` of the curve, `-121665 / 121666`. -/
def curveD : Fe :=
  .ofNat fieldPrime 0x52036cee2b6ffe738cc740797779e89800700a4d4141d8ab75eb4dca135978a3

/-- A point of the plane. -/
structure Affine where
  x : Fe
  y : Fe
deriving DecidableEq

namespace Affine

/-- The point is a point of the curve. -/
def OnCurve (P : Affine) : Prop :=
  P.y * P.y - P.x * P.x = 1 + curveD * (P.x * P.x) * (P.y * P.y)

instance (P : Affine) : Decidable P.OnCurve := inferInstanceAs (Decidable (_ = _))

/-- The identity of the group. -/
def identity : Affine := ⟨0, 1⟩

/-- The negative of a point. -/
def neg (P : Affine) : Affine := ⟨-P.x, P.y⟩

/-- The sum of two points. -/
def add (P Q : Affine) : Affine :=
  let e := curveD * (P.x * Q.x) * (P.y * Q.y)
  ⟨(P.x * Q.y + Q.x * P.y) / (1 + e), (P.y * Q.y + P.x * Q.x) / (1 - e)⟩

/-- The base point: its `y` is `4 / 5`, and its `x` is even. -/
def base : Affine where
  x := .ofNat fieldPrime 0x216936d3cd6e53fec0a4e231fdd6dc5c692cc7609525a7b2c9562d608f25d51a
  y := .ofNat fieldPrime 0x6666666666666666666666666666666666666666666666666666666666666658

end Affine

end EdwardsSignature
