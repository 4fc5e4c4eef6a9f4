import EdwardsSignature.Sha512.Compression

/-!
# The SHA-512 digest of a message

A message is *padded* to whole blocks: by a byte `0x80`, by as few zeros as will do, and by the
number of its bits, written with sixteen bytes. The *digest* is the state after compressing all the
blocks of the padded message (`Sha512.digest`).
-/

namespace EdwardsSignature.Sha512

/-- The number of bytes in a digest. -/
def digestSize : Nat := 64

/-- The number of zeros in the padding of a message of `n` bytes. -/
def paddingZeros (n : Nat) : Nat := (239 - n % 128) % 128

/-- The padding of a message of `n` bytes. -/
def padding (n : Nat) : Bytes :=
  0x80 :: (List.replicate (paddingZeros n) 0 ++ Bytes.ofNatBE 16 (8 * n))

/-- A message with its padding. -/
def pad (message : Bytes) : Bytes := message ++ padding message.length

/-- A padded message is made of whole blocks. -/
theorem length_pad_mod (message : Bytes) : (pad message).length % blockSize = 0 := by
  simp only [pad, padding, paddingZeros, blockSize, List.length_append, List.length_cons,
    List.length_replicate, Bytes.length_ofNatBE]
  omega

/-- The number of blocks in a byte string. -/
def blockCount (bs : Bytes) : Nat := bs.length / blockSize

/-- The SHA-512 digest of a message. -/
def digest (message : Bytes) : Octets 64 :=
  (State.initial.compressBlocks (blockCount (pad message)) (pad message)).toOctets

end EdwardsSignature.Sha512
