import EdwardsSignature.Curve.Affine

/-!
# Points without denominators

To compute on the curve without dividing, a point `(x, y)` is represented by *extended coordinates*
`(X, Y, Z, T)` with `x = X / Z`, `y = Y / Z` and `x y = T / Z`, in many ways. A `Point` stands for the
affine point `Point.affine`; sums (`Point.add`) and multiples (`Point.multiple`) are formed in extended
coordinates throughout.
-/

namespace EdwardsSignature

/-- A point in extended coordinates. -/
structure Point where
  X : Fe
  Y : Fe
  Z : Fe
  T : Fe
deriving DecidableEq

namespace Point

/-- The extended coordinates of an affine point with `Z = 1`. -/
def ofAffine (P : Affine) : Point := ⟨P.x, P.y, 1, P.x * P.y⟩

/-- The affine point that a point stands for. -/
def affine (P : Point) : Affine :=
  let w := P.Z⁻¹
  ⟨P.X * w, P.Y * w⟩

/-- The extended coordinates of a point of the curve: none of them is at infinity, and `T` goes with
    the others. -/
def Valid (P : Point) : Prop := P.Z ≠ 0 ∧ P.X * P.Y = P.Z * P.T ∧ P.affine.OnCurve

/-- The identity of the group. -/
def identity : Point := ofAffine .identity

/-- The base point. -/
def base : Point := ofAffine .base

/-- The sum of two points, which may be the same. -/
def add (P Q : Point) : Point :=
  let a := (P.Y - P.X) * (Q.Y - Q.X)
  let b := (P.Y + P.X) * (Q.Y + Q.X)
  let c := (curveD + curveD) * P.T * Q.T
  let d := (P.Z + P.Z) * Q.Z
  let e := b - a
  let f := d - c
  let g := d + c
  let h := b + a
  ⟨e * f, g * h, f * g, e * h⟩

instance : Add Point := ⟨add⟩

/-- The sum of `n` copies of a point. -/
def multiple (n : Nat) (P : Point) : Point := repeated (· + ·) identity n P

/-- The sum of eight copies of a point: the eightfold of a point lies in the group that the base
    point generates. -/
def eightfold (P : Point) : Point :=
  let P₂ := P + P
  let P₄ := P₂ + P₂
  P₄ + P₄

end Point

end EdwardsSignature
