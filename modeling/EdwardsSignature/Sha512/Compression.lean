import EdwardsSignature.Bytes.Basic

/-!
# The compression function of SHA-512

A *state* is eight words of 64 bits, and a block of 128 bytes is compressed into it: the sixteen
words of the block are extended to a *schedule* of eighty words, each of which drives one *round* on
the state, and the result is added to the state that the rounds started from
(`Sha512.State.compress`).
-/

namespace EdwardsSignature.Sha512

/-- The number of bytes in a block. -/
def blockSize : Nat := 128

/-- The eight words that are carried from block to block. -/
structure State where
  a : UInt64
  b : UInt64
  c : UInt64
  d : UInt64
  e : UInt64
  f : UInt64
  g : UInt64
  h : UInt64
deriving DecidableEq

/-- The state before the first block: the fractional parts of the square roots of the first eight
    primes. -/
def State.initial : State :=
  ⟨0x6a09e667f3bcc908, 0xbb67ae8584caa73b, 0x3c6ef372fe94f82b, 0xa54ff53a5f1d36f1,
    0x510e527fade682d1, 0x9b05688c2b3e6c1f, 0x1f83d9abfb41bd6b, 0x5be0cd19137e2179⟩

/-- The constants of the rounds: the fractional parts of the cube roots of the first eighty
    primes. -/
def roundConstants : List UInt64 :=
  [0x428a2f98d728ae22, 0x7137449123ef65cd, 0xb5c0fbcfec4d3b2f, 0xe9b5dba58189dbbc,
   0x3956c25bf348b538, 0x59f111f1b605d019, 0x923f82a4af194f9b, 0xab1c5ed5da6d8118,
   0xd807aa98a3030242, 0x12835b0145706fbe, 0x243185be4ee4b28c, 0x550c7dc3d5ffb4e2,
   0x72be5d74f27b896f, 0x80deb1fe3b1696b1, 0x9bdc06a725c71235, 0xc19bf174cf692694,
   0xe49b69c19ef14ad2, 0xefbe4786384f25e3, 0x0fc19dc68b8cd5b5, 0x240ca1cc77ac9c65,
   0x2de92c6f592b0275, 0x4a7484aa6ea6e483, 0x5cb0a9dcbd41fbd4, 0x76f988da831153b5,
   0x983e5152ee66dfab, 0xa831c66d2db43210, 0xb00327c898fb213f, 0xbf597fc7beef0ee4,
   0xc6e00bf33da88fc2, 0xd5a79147930aa725, 0x06ca6351e003826f, 0x142929670a0e6e70,
   0x27b70a8546d22ffc, 0x2e1b21385c26c926, 0x4d2c6dfc5ac42aed, 0x53380d139d95b3df,
   0x650a73548baf63de, 0x766a0abb3c77b2a8, 0x81c2c92e47edaee6, 0x92722c851482353b,
   0xa2bfe8a14cf10364, 0xa81a664bbc423001, 0xc24b8b70d0f89791, 0xc76c51a30654be30,
   0xd192e819d6ef5218, 0xd69906245565a910, 0xf40e35855771202a, 0x106aa07032bbd1b8,
   0x19a4c116b8d2d0c8, 0x1e376c085141ab53, 0x2748774cdf8eeb99, 0x34b0bcb5e19b48a8,
   0x391c0cb3c5c95a63, 0x4ed8aa4ae3418acb, 0x5b9cca4f7763e373, 0x682e6ff3d6b2b8a3,
   0x748f82ee5defb2fc, 0x78a5636f43172f60, 0x84c87814a1f0ab72, 0x8cc702081a6439ec,
   0x90befffa23631e28, 0xa4506cebde82bde9, 0xbef9a3f7b2c67915, 0xc67178f2e372532b,
   0xca273eceea26619c, 0xd186b8c721c0c207, 0xeada7dd6cde0eb1e, 0xf57d4f7fee6ed178,
   0x06f067aa72176fba, 0x0a637dc5a2c898a6, 0x113f9804bef90dae, 0x1b710b35131c471b,
   0x28db77f523047d84, 0x32caab7b40c72493, 0x3c9ebe0a15c9bebc, 0x431d67c49c100d4c,
   0x4cc5d4becb3e42b6, 0x597f299cfc657e2a, 0x5fcb6fab3ad6faec, 0x6c44198c4a475817]

/-! ## Functions on words -/

/-- The word `x`, rotated to the right by `n` bits, for `0 < n < 64`. -/
def rotateRight (x n : UInt64) : UInt64 := (x >>> n) ||| (x <<< (64 - n))

/-- The bits of `y` where `x` has a one, and those of `z` where it has a zero. -/
def choose (x y z : UInt64) : UInt64 := (x &&& y) ^^^ (~~~x &&& z)

/-- In each place, the bit that at least two of the three words have there. -/
def majority (x y z : UInt64) : UInt64 := (x &&& y) ^^^ (x &&& z) ^^^ (y &&& z)

/-- The mixing of the word `a` in a round. -/
def bigSigma0 (x : UInt64) : UInt64 := rotateRight x 28 ^^^ rotateRight x 34 ^^^ rotateRight x 39

/-- The mixing of the word `e` in a round. -/
def bigSigma1 (x : UInt64) : UInt64 := rotateRight x 14 ^^^ rotateRight x 18 ^^^ rotateRight x 41

/-- The mixing of the word fifteen places back in the schedule. -/
def smallSigma0 (x : UInt64) : UInt64 := rotateRight x 1 ^^^ rotateRight x 8 ^^^ (x >>> 7)

/-- The mixing of the word two places back in the schedule. -/
def smallSigma1 (x : UInt64) : UInt64 := rotateRight x 19 ^^^ rotateRight x 61 ^^^ (x >>> 6)

/-! ## The schedule -/

/-- The word at the place `i` of a block, in which the most significant byte comes first. -/
def blockWord (block : Bytes) (i : Nat) : UInt64 :=
  UInt64.ofNat (Bytes.toNatBE ((block.drop (8 * i)).take 8))

/-- The first `n` words of the schedule: those of the block, and then each from four of the words
    before it. -/
def schedule (block : Bytes) : (n : Nat) → Vector UInt64 n
  | 0 => Vector.emptyWithCapacity 80
  | n + 1 =>
    let w := schedule block n
    w.push <|
      if h : n < 16 then blockWord block n
      else smallSigma1 w[n - 2] + w[n - 7] + smallSigma0 w[n - 15] + w[n - 16]

namespace State

/-! ## The rounds -/

/-- One round, with the constant `k` and the word `w` of the schedule. -/
def round (s : State) (k w : UInt64) : State :=
  let t₁ := s.h + bigSigma1 s.e + choose s.e s.f s.g + k + w
  let t₂ := bigSigma0 s.a + majority s.a s.b s.c
  ⟨t₁ + t₂, s.a, s.b, s.c, s.d + t₁, s.e, s.f, s.g⟩

/-- The sum of two states, word by word. -/
def add (s t : State) : State :=
  ⟨s.a + t.a, s.b + t.b, s.c + t.c, s.d + t.d, s.e + t.e, s.f + t.f, s.g + t.g, s.h + t.h⟩

/-- Compresses a block of `blockSize` bytes into a state. -/
def compress (s : State) (block : Bytes) : State :=
  s.add <| (roundConstants.zip (schedule block 80).toList).foldl (fun t kw => t.round kw.1 kw.2) s

/-- Compresses, one after the other, the first `count` blocks of a byte string into a state. -/
def compressBlocks (s : State) : (count : Nat) → Bytes → State
  | 0, _ => s
  | count + 1, bs => (s.compress (bs.take blockSize)).compressBlocks count (bs.drop blockSize)

/-- The bytes of a state, in which the most significant byte of each word comes first. -/
def toOctets (s : State) : Octets 64 :=
  ⟨[s.a, s.b, s.c, s.d, s.e, s.f, s.g, s.h].flatMap fun w => Bytes.ofNatBE 8 w.toNat, by simp⟩

end State

end EdwardsSignature.Sha512
