import EdwardsSignature.Sha512.Digest

/-!
# Hashing a message that comes in pieces

A *hasher* has seen part of a message: it has compressed the whole blocks of that part, it keeps the
bytes after them, and it counts all the bytes, as the padding will need their number. It takes in
more bytes by `Hasher.update` and gives the digest of all it has seen by `Hasher.finish`. As a value
it can be kept, and continued in several ways.
-/

namespace EdwardsSignature.Sha512

/-- The state of hashing a message of which part has been seen. -/
structure Hasher where
  /-- The state after the whole blocks seen. -/
  state : State
  /-- The bytes seen after these blocks. -/
  pending : Array UInt8
  /-- The number of all the bytes seen. -/
  count : Nat
  /-- Whole blocks do not stay pending. -/
  size_pending_lt : pending.size < blockSize

namespace Hasher

/-- Before any of the message. -/
def empty : Hasher := ⟨.initial, #[], 0, by decide⟩

/-- Takes in the next byte, and compresses the block that it completes, if any. -/
def absorb (h : Hasher) (b : UInt8) : Hasher :=
  if hlt : h.pending.size + 1 < blockSize then
    ⟨h.state, h.pending.push b, h.count + 1, by simpa using hlt⟩
  else
    ⟨h.state.compress (h.pending.push b).toList, #[], h.count + 1, by decide⟩

/-- Takes in the next bytes. -/
def update (h : Hasher) (bs : Bytes) : Hasher := bs.foldl absorb h

/-- The digest of all the bytes seen. -/
def finish (h : Hasher) : Octets 64 :=
  let rest := h.pending.toList ++ padding h.count
  (h.state.compressBlocks (blockCount rest) rest).toOctets

/-- Taking in nothing. -/
@[simp] theorem update_nil (h : Hasher) : h.update [] = h := rfl

/-- Taking in bytes at once or in two pieces. -/
theorem update_append (h : Hasher) (as bs : Bytes) :
    h.update (as ++ bs) = (h.update as).update bs := List.foldl_append

end Hasher

/-- The digest of a message that is given in pieces. -/
def digestOf (pieces : List Bytes) : Octets 64 := (pieces.foldl Hasher.update .empty).finish

end EdwardsSignature.Sha512
