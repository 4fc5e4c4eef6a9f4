import EdwardsSignature.Bytes.Basic
import EdwardsSignature.Text.Structural

/-!
# Signatures

A *signature* is a *commitment*, the encoding of the point that the nonce gives, and a *response*, a
scalar in writing. In 64 bytes it has the commitment first.
-/

namespace EdwardsSignature

/-- A commitment and the response to the challenge that follows it. -/
structure Signature where
  /-- The encoding of a point. -/
  commitment : Octets 32
  /-- A scalar in writing. -/
  response : Octets 32
deriving DecidableEq

namespace Signature

/-- The number of bytes in a signature. -/
def size : Nat := 64

/-- The signature in the given bytes. -/
def ofOctets (o : Octets 64) : Signature := ⟨o.lower, o.upper⟩

/-- The signature in a byte string of the size of one. Of a longer byte string it has the front, and a
    shorter one is filled up with zeros. -/
def ofBytes (bs : Bytes) : Signature := ⟨.ofBytes 32 bs, .ofBytes 32 (bs.drop 32)⟩

/-- The bytes of a signature. -/
def toOctets (s : Signature) : Octets 64 := .join s.commitment s.response

@[simp] theorem ofOctets_toOctets (s : Signature) : ofOctets s.toOctets = s := by
  simp [ofOctets, toOctets]

@[simp] theorem toOctets_ofOctets (o : Octets 64) : (ofOctets o).toOctets = o := by
  simp [ofOctets, toOctets]

theorem ofBytes_bytes (o : Octets 64) : ofBytes o.bytes = ofOctets o := by
  have hcommitment : Octets.ofBytes 32 o.bytes = o.lower :=
    Octets.ext_bytes (List.take_append_of_le_length (by simp))
  have hresponse : Octets.ofBytes 32 (o.bytes.drop 32) = o.upper :=
    Octets.ext_bytes (List.take_left' (by simp))
  rw [ofBytes, hcommitment, hresponse, ofOctets]

/-- The structural text of a signature, which does not show its bytes. -/
def describe (s : Signature) : String :=
  Text.Structural.record "Ed25519Signature"
    [("length", Text.Structural.number s.toOctets.bytes.length)]

end Signature

end EdwardsSignature
