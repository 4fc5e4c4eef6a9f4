import EdwardsSignature.Bytes.Basic

/-!
# The expansion of a seed

The digest of a seed is its *expansion*, of 64 bytes. The first half, *clamped*, is the secret scalar:
clamping makes it a multiple of eight, so that no component of small order shows in what it is
multiplied with, and sets its highest bit at a fixed place. The second half is the *nonce key*, which
makes the nonces of signatures unpredictable.
-/

namespace EdwardsSignature

/-- The number of bytes in an expansion. -/
def expansionSize : Nat := 64

/-- Clears the three lowest bits of a number of 32 bytes and the highest one, and sets the second
    highest. -/
def clamp (o : Octets 32) : Octets 32 :=
  ⟨(o.bytes.modify 0 (· &&& 248)).modify 31 fun b => (b &&& 127) ||| 64, by simp⟩

/-- The clamped bytes of the secret scalar and the nonce key of an expansion. -/
def expand (expansion : Octets 64) : Octets 32 × Octets 32 :=
  (clamp expansion.lower, expansion.upper)

end EdwardsSignature
