import EdwardsSignature.Bytes.Agreement
import EdwardsSignature.Curve.Point

/-!
# Encodings of points

A point of the curve is *encoded* in 32 bytes: the number that they stand for has the `y` of the point
in its lower 255 bits, and its last bit tells whether the `x` of the point is odd. Given `y`, the
curve leaves at most two values for `x`, negatives of each other, and the bit tells which one is
meant.

Decoding (`Affine.decode?`) accepts nothing but what encoding produces: `y` has to be reduced, there
has to be an `x`, and where `x = 0` is the only one, the bit has to be `0`.
-/

namespace EdwardsSignature

/-- The weight of the last bit of an encoding, `2²⁵⁵`. -/
def signWeight : Nat := 0x8000000000000000000000000000000000000000000000000000000000000000

/-- Whether an element of the field is odd, as a bit. -/
def Fe.parity (a : Fe) : Nat := a.val % 2

namespace Affine

/-- The encoding of a point. -/
def encode (P : Affine) : Octets 32 := .ofNat 32 (P.y.val + signWeight * P.x.parity)

/-- An `x` with the given `y` on the curve, if there is one. -/
def recoverX? (y : Fe) : Option Fe := Fe.sqrt? ((y * y - 1) / (curveD * (y * y) + 1))

/-- The point of the curve that has the given encoding, if there is one. -/
def decode? (code : Octets 32) : Option Affine :=
  let n := code.toNat
  let sign := n / signWeight
  if h : n % signWeight < fieldPrime then
    let y : Fe := ⟨n % signWeight, h⟩
    match recoverX? y with
    | none => none
    | some x =>
      if x.parity = sign then some ⟨x, y⟩
      else if (-x).parity = sign then some ⟨-x, y⟩
      else none
  else none

end Affine

namespace Point

/-- The encoding of the affine point that a point stands for. -/
def encode (P : Point) : Octets 32 := P.affine.encode

/-- The point of the curve that has the given encoding, if there is one. -/
def decode? (code : Octets 32) : Option Point := (Affine.decode? code).map ofAffine

/-- Whether two points stand for the same affine point, as their encodings tell. -/
def same (P Q : Point) : Bool := P.encode.agree Q.encode

end Point

end EdwardsSignature
