import EdwardsSignature.Proofs.Sha512.Bits
import Mathlib.Data.Nat.NthRoot.Defs
import Mathlib.Data.Nat.Nth
import Mathlib.Data.Nat.Prime.Basic

/-!
# SHA-512 on strings of bits

SHA-512 as the standard defines it, for messages of any number of bits: the functions on words, the
constants as digits of roots of primes, the schedule by its recurrence, the padding with the least number
of zeros that there can be, and the hash values block after block (`Sha512.Bitwise.digest`).

None of it refers to how digests are computed on byte strings.
-/

namespace EdwardsSignature.Sha512.Bitwise

/-- A word of 64 bits. -/
abbrev Word := BitVec 64

/-! ## Functions on words -/

/-- The function `Ch`. -/
def ch (x y z : Word) : Word := (x &&& y) ^^^ (~~~x &&& z)

/-- The function `Maj`. -/
def maj (x y z : Word) : Word := (x &&& y) ^^^ (x &&& z) ^^^ (y &&& z)

/-- The function `Σ₀`. -/
def bigSigma0 (x : Word) : Word := x.rotateRight 28 ^^^ x.rotateRight 34 ^^^ x.rotateRight 39

/-- The function `Σ₁`. -/
def bigSigma1 (x : Word) : Word := x.rotateRight 14 ^^^ x.rotateRight 18 ^^^ x.rotateRight 41

/-- The function `σ₀`. -/
def smallSigma0 (x : Word) : Word := x.rotateRight 1 ^^^ x.rotateRight 8 ^^^ x >>> 7

/-- The function `σ₁`. -/
def smallSigma1 (x : Word) : Word := x.rotateRight 19 ^^^ x.rotateRight 61 ^^^ x >>> 6

/-! ## Constants -/

/-- The first 64 bits of the fractional part of the `k`-th root of `n`. -/
def rootFraction (k n : ℕ) : Word := BitVec.ofNat 64 (Nat.nthRoot k (n * 2 ^ (64 * k)))

/-- The constant of the round `t`, from the cube root of a prime. -/
noncomputable def roundConstant (t : ℕ) : Word := rootFraction 3 (Nat.nth Nat.Prime t)

/-! ## Hash values -/

/-- Eight words: a hash value, or the working variables of the rounds. -/
structure Words where
  a : Word
  b : Word
  c : Word
  d : Word
  e : Word
  f : Word
  g : Word
  h : Word
deriving DecidableEq

/-- The hash value before the first block, from the square roots of the first eight primes. -/
noncomputable def initial : Words :=
  let root (j : ℕ) := rootFraction 2 (Nat.nth Nat.Prime j)
  ⟨root 0, root 1, root 2, root 3, root 4, root 5, root 6, root 7⟩

/-- The word `i` of a block. -/
def blockWord (block : Bits) (i : ℕ) : Word :=
  BitVec.ofNat 64 (Bits.toNat ((block.drop (64 * i)).take 64))

/-- The word `t` of the schedule of a block. -/
def scheduleWord (block : Bits) (t : ℕ) : Word :=
  if t < 16 then blockWord block t
  else
    smallSigma1 (scheduleWord block (t - 2)) + scheduleWord block (t - 7) +
      smallSigma0 (scheduleWord block (t - 15)) + scheduleWord block (t - 16)

namespace Words

/-- One round, with the constant `k` and the word `w` of the schedule. -/
def round (v : Words) (k w : Word) : Words :=
  let t₁ := v.h + Bitwise.bigSigma1 v.e + ch v.e v.f v.g + k + w
  let t₂ := Bitwise.bigSigma0 v.a + maj v.a v.b v.c
  ⟨t₁ + t₂, v.a, v.b, v.c, v.d + t₁, v.e, v.f, v.g⟩

/-- The sum, word by word. -/
def add (v w : Words) : Words :=
  ⟨v.a + w.a, v.b + w.b, v.c + w.c, v.d + w.d, v.e + w.e, v.f + w.f, v.g + w.g, v.h + w.h⟩

/-- The hash value after a block. -/
noncomputable def compress (v : Words) (block : Bits) : Words :=
  v.add <| (List.range 80).foldl (fun w t => w.round (roundConstant t) (scheduleWord block t)) v

/-- The bits of the words. -/
def bits (v : Words) : Bits :=
  [v.a, v.b, v.c, v.d, v.e, v.f, v.g, v.h].flatMap fun w => Bits.ofNat 64 w.toNat

end Words

/-! ## Padding -/

/-- Some number of zeros makes a message of `n` bits end 128 bits before the end of a block. -/
theorem exists_zeros (n : ℕ) : ∃ k, (n + 1 + k) % 1024 = 896 :=
  ⟨(1919 - n % 1024) % 1024, by omega⟩

/-- The least number of zeros. -/
def zeros (n : ℕ) : ℕ := Nat.find (exists_zeros n)

/-- A message, followed by a one, the zeros, and the number of its bits. -/
def pad (message : Bits) : Bits :=
  message ++ true :: List.replicate (zeros message.length) false ++ Bits.ofNat 128 message.length

/-! ## Digests -/

/-- The block `i` of a message. -/
def block (message : Bits) (i : ℕ) : Bits := (message.drop (1024 * i)).take 1024

/-- The digest of a message. -/
noncomputable def digest (message : Bits) : Bits :=
  let padded := pad message
  ((List.range (padded.length / 1024)).foldl (fun v i => v.compress (block padded i)) initial).bits

end EdwardsSignature.Sha512.Bitwise
