import EdwardsSignature.Curve.Encoding
import EdwardsSignature.Error

/-!
# Public keys

A *public key* is a point of the curve together with its encoding, as what is hashed is the encoding.
Any point will do, also one outside of the group that the base point generates.
-/

namespace EdwardsSignature

/-- A point of the curve and its encoding. -/
structure PublicKey where
  /-- The point. -/
  point : Point
  /-- The encoding of the point. -/
  encoded : Octets 32

namespace PublicKey

/-- The number of bytes in an encoded public key. -/
def size : Nat := 32

/-- The public key of a point. -/
def ofPoint (P : Point) : PublicKey := ⟨P, P.encode⟩

/-- The public key that has the given encoding. -/
def decode (bytes : Bytes) : Except Error PublicKey :=
  match Octets.ofBytes? 32 bytes with
  | none => .error (.wrongLength "Ed25519 public key" size bytes.length)
  | some code =>
    match Point.decode? code with
    | none => .error (.notAPoint "Ed25519 public key")
    | some P => .ok ⟨P, code⟩

/-- Public keys are compared by their encodings. -/
instance : BEq PublicKey := ⟨fun A B => A.encoded == B.encoded⟩

/-- The structural text of a public key, which does not show the key. -/
def describe (_ : PublicKey) : String :=
  Text.Structural.record "PublicKey" [("algorithm", Text.Structural.text "Ed25519")]

end PublicKey

end EdwardsSignature
