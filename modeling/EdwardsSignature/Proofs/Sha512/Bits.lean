import EdwardsSignature.Proofs.Bytes.LittleEndian

/-!
# Strings of bits

A *string of bits* is read as a number with its first bit as the most significant one (`Bits.toNat`), and
a number is written with a given number of bits (`Bits.ofNat`). A byte string is a string of bits as well,
eight for each byte (`Bits.ofBytes`).

* `toNat_ofBytes`, `ofBytes_ofNatBE`: numbers are read from the bits of a byte string, and written in
  them, as from and in its bytes;
* `take_ofBytes`, `drop_ofBytes`: what starts and ends at multiples of eight bits is a byte string.
-/

namespace EdwardsSignature

/-- A string of bits. -/
abbrev Bits := List Bool

namespace Bits

/-- The number that a string stands for, its first bit being the most significant. -/
def toNat (s : Bits) : ℕ := s.foldl (fun n b => 2 * n + b.toNat) 0

/-- The `width` least significant bits of a number, the least significant one at the end. -/
def ofNat : (width : ℕ) → ℕ → Bits
  | 0, _ => []
  | width + 1, n => ofNat width (n / 2) ++ [n.testBit 0]

/-- The bits of a byte string. -/
def ofBytes (bs : Bytes) : Bits := bs.flatMap fun b => ofNat 8 b.toNat

/-! ## Numbers -/

@[simp] theorem toNat_nil : toNat [] = 0 := rfl

theorem toNat_concat (s : Bits) (b : Bool) : toNat (s ++ [b]) = 2 * toNat s + b.toNat :=
  List.foldl_concat _ _ _ _

theorem toNat_append (s t : Bits) : toNat (s ++ t) = toNat s * 2 ^ t.length + toNat t := by
  induction t using List.reverseRecOn with
  | nil => simp
  | append_singleton t b ih =>
    rw [← List.append_assoc, toNat_concat, toNat_concat, ih, List.length_append, List.length_singleton]
    ring

@[simp] theorem length_ofNat (width n : ℕ) : (ofNat width n).length = width := by
  induction width generalizing n with
  | zero => rfl
  | succ width ih => rw [ofNat, List.length_append, ih, List.length_singleton]

/-- Reading what was written keeps the bits that there was room for. -/
theorem toNat_ofNat (width n : ℕ) : toNat (ofNat width n) = n % 2 ^ width := by
  induction width generalizing n with
  | zero => rw [pow_zero, Nat.mod_one, ofNat, toNat_nil]
  | succ width ih =>
    rw [ofNat, toNat_concat, ih, Nat.toNat_testBit, pow_zero, Nat.div_one, pow_succ', Nat.mod_mul,
      add_comm]

/-- Writing a number in two parts. -/
theorem ofNat_add (v w n : ℕ) : ofNat (v + w) n = ofNat v (n / 2 ^ w) ++ ofNat w n := by
  induction w generalizing n with
  | zero => rw [pow_zero, Nat.div_one, ofNat, List.append_nil, add_zero]
  | succ w ih =>
    rw [← add_assoc, ofNat, ih, ofNat, List.append_assoc, Nat.div_div_eq_div_mul, pow_succ']

/-- Bits beyond those that are written do not matter. -/
theorem ofNat_mod (w n : ℕ) : ofNat w (n % 2 ^ w) = ofNat w n := by
  induction w generalizing n with
  | zero => rfl
  | succ w ih =>
    have hhigh : n % 2 ^ (w + 1) / 2 = n / 2 % 2 ^ w := by
      rw [pow_succ', Nat.mod_mul_right_div_self]
    have hlow : (n % 2 ^ (w + 1)).testBit 0 = n.testBit 0 := by
      rw [Nat.testBit_mod_two_pow, decide_eq_true w.succ_pos, Bool.true_and]
    rw [ofNat, ofNat, hhigh, hlow, ih]

/-! ## Byte strings -/

@[simp] theorem ofBytes_nil : ofBytes [] = [] := rfl

theorem ofBytes_cons (b : UInt8) (bs : Bytes) : ofBytes (b :: bs) = ofNat 8 b.toNat ++ ofBytes bs := rfl

@[simp] theorem ofBytes_append (as bs : Bytes) : ofBytes (as ++ bs) = ofBytes as ++ ofBytes bs :=
  List.flatMap_append

@[simp] theorem length_ofBytes (bs : Bytes) : (ofBytes bs).length = 8 * bs.length := by
  induction bs with
  | nil => rfl
  | cons b bs ih =>
    rw [ofBytes_cons, List.length_append, length_ofNat, ih, List.length_cons]
    omega

/-- The bits at the front of a byte string. -/
theorem take_ofBytes (bs : Bytes) (n : ℕ) : (ofBytes bs).take (8 * n) = ofBytes (bs.take n) := by
  induction bs generalizing n with
  | nil => simp
  | cons b bs ih =>
    cases n with
    | zero => rfl
    | succ n =>
      have hsize : 8 * (n + 1) = (ofNat 8 b.toNat).length + 8 * n := by
        rw [length_ofNat]
        omega
      rw [ofBytes_cons, hsize, List.take_length_add_append, ih, List.take_succ_cons, ofBytes_cons]

/-- The bits of a byte string from a byte on. -/
theorem drop_ofBytes (bs : Bytes) (n : ℕ) : (ofBytes bs).drop (8 * n) = ofBytes (bs.drop n) := by
  have h : ofBytes (bs.take n) ++ (ofBytes bs).drop (8 * n) =
      ofBytes (bs.take n) ++ ofBytes (bs.drop n) := by
    rw [← take_ofBytes, List.take_append_drop, take_ofBytes, ← ofBytes_append, List.take_append_drop]
  exact List.append_cancel_left h

/-- A byte string stands for the same number as its bits. -/
theorem toNat_ofBytes (bs : Bytes) : toNat (ofBytes bs) = Bytes.toNatBE bs := by
  induction bs using List.reverseRecOn with
  | nil => rfl
  | append_singleton bs b ih =>
    have hb : b.toNat < 2 ^ 8 := b.toNat_lt
    have hlast : ofBytes [b] = ofNat 8 b.toNat := List.append_nil _
    rw [ofBytes_append, hlast, toNat_append, length_ofNat, toNat_ofNat, Nat.mod_eq_of_lt hb, ih,
      Bytes.toNatBE, Bytes.toNatBE, List.reverse_append, List.reverse_singleton, List.singleton_append,
      Bytes.toNat]
    omega

/-- A number is written in bytes as it is in bits. -/
theorem ofBytes_ofNatBE (width n : ℕ) : ofBytes (Bytes.ofNatBE width n) = ofNat (8 * width) n := by
  induction width generalizing n with
  | zero => rfl
  | succ width ih =>
    have hlast : Bytes.ofNatBE (width + 1) n = Bytes.ofNatBE width (n / 256) ++ [UInt8.ofNat n] :=
      List.reverse_cons
    have hbyte : ofBytes [UInt8.ofNat n] = ofNat 8 n := by
      rw [ofBytes_cons, ofBytes_nil, List.append_nil, UInt8.toNat_ofNat', ofNat_mod]
    rw [hlast, ofBytes_append, ih, hbyte, Nat.mul_succ, ofNat_add]
    rfl

end Bits

end EdwardsSignature
