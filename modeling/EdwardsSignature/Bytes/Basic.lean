/-!
# Byte strings

A *byte string* is a list of bytes. `Octets n` is the type of the byte strings of length `n`: keys,
seeds, digests and signatures have a size that their type knows.

A byte string is read as a number with its first byte as the least significant digit
(`Bytes.toNat`), and a number is written with a given number of digits (`Bytes.ofNat`). Both come
with the other order of the digits as well (`Bytes.toNatBE`, `Bytes.ofNatBE`).
-/

namespace EdwardsSignature

/-- A byte string. -/
abbrev Bytes := List UInt8

namespace Bytes

/-- The number that a byte string stands for, its first byte being the least significant. -/
def toNat : Bytes → Nat
  | [] => 0
  | b :: bs => b.toNat + 256 * toNat bs

/-- The `width` least significant digits of a number in base `256`, from the least significant
    one on. -/
def ofNat : (width : Nat) → Nat → Bytes
  | 0, _ => []
  | width + 1, n => UInt8.ofNat n :: ofNat width (n / 256)

/-- The number that a byte string stands for, its last byte being the least significant. -/
def toNatBE (bs : Bytes) : Nat := toNat bs.reverse

/-- The `width` least significant digits of a number in base `256`, the least significant one at
    the end. -/
def ofNatBE (width n : Nat) : Bytes := (ofNat width n).reverse

@[simp] theorem length_ofNat (width n : Nat) : (ofNat width n).length = width := by
  induction width generalizing n with
  | zero => rfl
  | succ width ih => simp [ofNat, ih]

@[simp] theorem length_ofNatBE (width n : Nat) : (ofNatBE width n).length = width := by
  simp [ofNatBE]

/-- Writing back, with as many digits, the number that a byte string stands for. -/
theorem ofNat_toNat (bs : Bytes) : ofNat bs.length (toNat bs) = bs := by
  induction bs with
  | nil => rfl
  | cons b bs ih =>
    have hb : b.toNat < 256 := b.toNat_lt
    have hdiv : (b.toNat + 256 * toNat bs) / 256 = toNat bs := by omega
    have hmod : UInt8.ofNat (b.toNat + 256 * toNat bs) = b := by
      apply UInt8.toNat_inj.1
      rw [UInt8.toNat_ofNat']
      omega
    simp [toNat, ofNat, hdiv, hmod, ih]

/-- Byte strings of the same length that stand for the same number are the same. -/
theorem toNat_inj {as bs : Bytes} (hlen : as.length = bs.length) (h : toNat as = toNat bs) :
    as = bs := by
  rw [← ofNat_toNat as, ← ofNat_toNat bs, hlen, h]

end Bytes

/-- A byte string of length `n`. -/
structure Octets (n : Nat) where
  /-- The bytes. -/
  bytes : Bytes
  /-- There are `n` of them. -/
  length_eq : bytes.length = n
deriving DecidableEq

namespace Octets

@[simp] theorem length_bytes {n : Nat} (o : Octets n) : o.bytes.length = n := o.length_eq

/-- Octets are their bytes. -/
theorem ext_bytes {n : Nat} {o o' : Octets n} (h : o.bytes = o'.bytes) : o = o' := by
  cases o; cases o'; simp_all

/-- What has the length for it is the bytes of octets. -/
theorem exists_bytes_eq {n : Nat} {bs : Bytes} (h : bs.length = n) : ∃ o : Octets n, o.bytes = bs :=
  ⟨⟨bs, h⟩, rfl⟩

/-- The byte string `bs` as octets, provided it has the length for it. -/
def ofBytes? (n : Nat) (bs : Bytes) : Option (Octets n) :=
  if h : bs.length = n then some ⟨bs, h⟩ else none

theorem ofBytes?_eq_some_iff {n : Nat} {bs : Bytes} {o : Octets n} :
    ofBytes? n bs = some o ↔ bs = o.bytes := by
  unfold ofBytes?
  constructor
  · intro h
    split at h
    · cases h; rfl
    · cases h
  · rintro rfl
    simp

theorem ofBytes?_bytes {n : Nat} (o : Octets n) : ofBytes? n o.bytes = some o :=
  ofBytes?_eq_some_iff.2 rfl

theorem ofBytes?_eq_none_iff {n : Nat} {bs : Bytes} :
    ofBytes? n bs = none ↔ bs.length ≠ n := by
  unfold ofBytes?
  split <;> simp_all

/-- The first `n` bytes of a byte string, which zeros follow if it is shorter. -/
def ofBytes (n : Nat) (bs : Bytes) : Octets n := ⟨(bs ++ List.replicate n 0).take n, by simp⟩

/-- Nothing but zeros. -/
def zero (n : Nat) : Octets n := ⟨List.replicate n 0, List.length_replicate⟩

/-- The number that the octets stand for, the first one being the least significant. -/
def toNat {n : Nat} (o : Octets n) : Nat := Bytes.toNat o.bytes

/-- The `n` least significant digits of `k` in base `256`. -/
def ofNat (n k : Nat) : Octets n := ⟨Bytes.ofNat n k, Bytes.length_ofNat n k⟩

/-- The first half of `64` octets. -/
def lower (o : Octets 64) : Octets 32 := ⟨o.bytes.take 32, by simp⟩

/-- The second half of `64` octets. -/
def upper (o : Octets 64) : Octets 32 := ⟨o.bytes.drop 32, by simp⟩

/-- The two halves in one. -/
def join (a b : Octets 32) : Octets 64 := ⟨a.bytes ++ b.bytes, by simp⟩

@[simp] theorem lower_join (a b : Octets 32) : (join a b).lower = a :=
  ext_bytes (by simp [join, lower])

@[simp] theorem upper_join (a b : Octets 32) : (join a b).upper = b :=
  ext_bytes (by simp [join, upper])

@[simp] theorem join_lower_upper (o : Octets 64) : join o.lower o.upper = o :=
  ext_bytes (by simp [join, lower, upper])

/-- Octets that stand for the same number are the same. -/
theorem toNat_inj {n : Nat} {o o' : Octets n} (h : o.toNat = o'.toNat) : o = o' :=
  ext_bytes (Bytes.toNat_inj (by simp) h)

end Octets

end EdwardsSignature
