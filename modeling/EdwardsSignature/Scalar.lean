import EdwardsSignature.Bytes.Basic
import EdwardsSignature.Residue

/-!
# Scalars

The *scalars* are the residues modulo the order of the base point, a prime: multiples of the base
point depend on no more than that of the factor. A scalar is written as 32 bytes, the least
significant first. Bytes are read as a scalar in three ways:

* `Scalar.ofWide` and `Scalar.ofOctets` reduce the number that 64 or 32 bytes stand for;
* `Scalar.ofCanonical?` accepts no number but one that is reduced already.
-/

namespace EdwardsSignature

/-- The order of the base point, the prime `2²⁵² + 27742317777372353535851937790883648493`. -/
def order : Nat := 0x1000000000000000000000000000000014def9dea2f79cd65812631a5cf5d3ed

instance : Modulus order := ⟨by decide⟩

/-- The order of the base point, written as scalars are. -/
def orderOctets : Octets 32 := .ofNat 32 order

/-- A scalar. -/
abbrev Scalar := Residue order

namespace Scalar

/-- The number of bytes that a scalar is written in. -/
def size : Nat := 32

/-- The scalar of a number of 64 bytes, such as a digest. -/
def ofWide (o : Octets 64) : Scalar := .ofNat order o.toNat

/-- The scalar of a number of 32 bytes. -/
def ofOctets (o : Octets 32) : Scalar := .ofNat order o.toNat

/-- The scalar that is written in these 32 bytes, unless they stand for a number that is not
    reduced. -/
def ofCanonical? (o : Octets 32) : Option Scalar :=
  if h : o.toNat < order then some ⟨o.toNat, h⟩ else none

/-- A scalar in writing. -/
def toOctets (s : Scalar) : Octets 32 := .ofNat 32 s.val

end Scalar

end EdwardsSignature
