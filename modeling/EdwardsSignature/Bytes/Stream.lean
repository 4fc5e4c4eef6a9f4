import EdwardsSignature.Bytes.Basic

/-!
# Streams of bytes

A source of random bytes is modelled by all the bytes it will ever give, and by how many of them have
been drawn (`ByteStream`).
-/

namespace EdwardsSignature

/-- A stream of bytes, and the position in it. -/
structure ByteStream where
  /-- The byte at each position. -/
  byteAt : Nat → UInt8
  /-- The number of bytes that have been drawn. -/
  drawn : Nat

namespace ByteStream

/-- The given bytes over and over again, or zeros if there are none. -/
def cycle (bs : Bytes) : ByteStream where
  byteAt i := bs[i % bs.length]?.getD 0
  drawn := 0

/-- Draws the next `n` bytes. -/
def draw (s : ByteStream) (n : Nat) : Octets n × ByteStream :=
  (⟨(List.range n).map fun i => s.byteAt (s.drawn + i), by simp⟩, { s with drawn := s.drawn + n })

end ByteStream

end EdwardsSignature
