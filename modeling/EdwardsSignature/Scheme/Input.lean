import EdwardsSignature.Error
import EdwardsSignature.Sha512.Digest

/-!
# Inputs

What is signed is a message, or a message that is given by its digest. The bytes that enter the hashes
are the *payload* of the input; a digest has to have the size of one.
-/

namespace EdwardsSignature

/-- What is signed. -/
inductive Input where
  /-- A message. -/
  | message (bytes : Bytes)
  /-- A message, given by its SHA-512 digest. -/
  | prehashed (digest : Bytes)
deriving DecidableEq

namespace Input

/-- The input is a digest. -/
def isPrehashed : Input → Bool
  | message _ => false
  | prehashed _ => true

/-- The bytes that enter the hashes. -/
def payload : Input → Except Error Bytes
  | message bytes => .ok bytes
  | prehashed digest =>
    if digest.length = Sha512.digestSize then .ok digest
    else .error (.invalidPrehash Sha512.digestSize digest.length)

/-- The structural text of a byte string. -/
def describeBytes (bs : Bytes) : String :=
  Text.Structural.list (bs.map fun b => Text.Structural.number b.toNat)

/-- The structural text of an input. -/
def describe : Input → String
  | message bytes => Text.Structural.applied "Message" (describeBytes bytes)
  | prehashed digest => Text.Structural.applied "Prehashed" (describeBytes digest)

end Input

end EdwardsSignature
