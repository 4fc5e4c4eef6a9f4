import EdwardsSignature.Residue

/-!
# The field of coordinates

The coordinates of points are residues modulo the prime `fieldPrime`, `2²⁵⁵ - 19`. In this field an
element is inverted by a power, as the nonzero elements are the roots of `x^(p - 1) = 1`, and so are
square roots found: `a^((p + 3) / 8)` squares to `a` or to `-a` if `a` is a square at all, and in the
second case a square root of `-1` repairs it (`Fe.sqrt?`).
-/

namespace EdwardsSignature

/-- The number of elements of the field, the prime `2²⁵⁵ - 19`. -/
def fieldPrime : Nat := 0x7fffffffffffffffffffffffffffffffffffffffffffffffffffffffffffffed

instance : Modulus fieldPrime := ⟨by decide⟩

/-- An element of the field. -/
abbrev Fe := Residue fieldPrime

namespace Fe

/-- The inverse of a nonzero element, and `0` for `0`. -/
def inverse (a : Fe) : Fe := a.power (fieldPrime - 2)

instance : Inv Fe := ⟨inverse⟩

instance : Div Fe := ⟨fun a b => a * b⁻¹⟩

/-- A square root of `-1`. -/
def sqrtNegOne : Fe :=
  .ofNat fieldPrime 0x2b8324804fc1df0b2b4d00993dfbd7a72f431806ad2fe478c4ee1b274a0ea0b0

/-- A square root of an element, if it has one. -/
def sqrt? (a : Fe) : Option Fe :=
  let r := a.power (fieldPrime / 8 + 1)
  let r' := r * sqrtNegOne
  if r * r = a then some r else if r' * r' = a then some r' else none

/-- What is found is a square root. -/
theorem mul_self_of_sqrt?_eq_some {a r : Fe} (h : sqrt? a = some r) : r * r = a := by
  unfold sqrt? at h
  simp only at h
  split at h
  · cases h; assumption
  · split at h
    · cases h; assumption
    · cases h

end Fe

end EdwardsSignature
