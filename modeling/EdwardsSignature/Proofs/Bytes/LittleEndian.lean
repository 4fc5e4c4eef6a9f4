import EdwardsSignature.Bytes.Basic
import Mathlib.Tactic

/-!
# Numbers in bytes

Writing a number in bytes and reading it back. A byte string of length `n` stands for a number below
`256 ^ n` (`Bytes.toNat_lt`), and what is written with `n` bytes is read as the remainder of the
division by `256 ^ n` (`Bytes.toNat_ofNat`): nothing is lost of a number that fits
(`Octets.toNat_ofNat_of_lt`), and every string is what is written for the number it stands for
(`Octets.ofNat_toNat`). What follows in a byte string counts for multiples of `256 ^ n`
(`Bytes.toNat_append`), so that zeros at the end do not count (`Octets.toNat_join_zero`).
-/

namespace EdwardsSignature

namespace Bytes

/-- The number that a byte string stands for fits into its length. -/
theorem toNat_lt (bs : Bytes) : toNat bs < 256 ^ bs.length := by
  induction bs with
  | nil => exact Nat.one_pos
  | cons b bs ih =>
    have hb : b.toNat < 256 := b.toNat_lt
    rw [toNat, List.length_cons, pow_succ]
    omega

/-- The bytes that follow are the more significant digits. -/
theorem toNat_append (as bs : Bytes) : toNat (as ++ bs) = toNat as + 256 ^ as.length * toNat bs := by
  induction as with
  | nil => rw [List.nil_append, toNat, List.length_nil, pow_zero, one_mul, zero_add]
  | cons a as ih =>
    rw [List.cons_append, toNat, ih, toNat, List.length_cons, pow_succ']
    ring

theorem toNat_replicate_zero (n : ℕ) : toNat (List.replicate n 0) = 0 := by
  induction n with
  | zero => rfl
  | succ n ih =>
    rw [List.replicate_succ, toNat, ih]
    rfl

/-- Reading what was written keeps the digits that there was room for. -/
theorem toNat_ofNat (width n : ℕ) : toNat (ofNat width n) = n % 256 ^ width := by
  induction width generalizing n with
  | zero => rw [ofNat, toNat, pow_zero, Nat.mod_one]
  | succ width ih =>
    have hdigit : n % 2 ^ 8 = n % 256 := rfl
    rw [ofNat, toNat, ih, UInt8.toNat_ofNat', hdigit, pow_succ' 256, Nat.mod_mul]

/-- A byte is a digit of the number. -/
theorem toNat_div_mod (bs : Bytes) {i : ℕ} (hi : i < bs.length) :
    toNat bs / 256 ^ i % 256 = bs[i].toNat := by
  induction bs generalizing i with
  | nil => exact absurd hi (Nat.not_lt_zero i)
  | cons b bs ih =>
    have hb : b.toNat < 256 := b.toNat_lt
    rw [toNat]
    cases i with
    | zero =>
      rw [pow_zero, Nat.div_one, Nat.add_mul_mod_self_left, Nat.mod_eq_of_lt hb]
      rfl
    | succ i =>
      rw [pow_succ', ← Nat.div_div_eq_div_mul, Nat.add_mul_div_left _ _ (by decide),
        Nat.div_eq_of_lt hb, zero_add, ih (Nat.lt_of_succ_lt_succ hi)]
      rfl

/-- Changing a byte changes one digit of the number. The new number and the old digit are on one side
    of the equation, so that nothing is subtracted. -/
theorem toNat_modify (bs : Bytes) {i : ℕ} (hi : i < bs.length) (f : UInt8 → UInt8) :
    toNat (bs.modify i f) + 256 ^ i * bs[i].toNat = toNat bs + 256 ^ i * (f bs[i]).toNat := by
  induction bs generalizing i with
  | nil => exact absurd hi (Nat.not_lt_zero i)
  | cons b bs ih =>
    cases i with
    | zero =>
      simp only [List.modify_zero_cons, toNat, List.getElem_cons_zero, pow_zero, one_mul]
      omega
    | succ i =>
      have h := ih (Nat.lt_of_succ_lt_succ hi)
      simp only [List.modify_succ_cons, toNat, List.getElem_cons_succ, pow_succ', mul_assoc]
      omega

end Bytes

namespace Octets

variable {n : ℕ}

theorem toNat_lt (o : Octets n) : o.toNat < 256 ^ n := by
  have h := Bytes.toNat_lt o.bytes
  rwa [o.length_bytes] at h

/-- A number that fits is read back. -/
theorem toNat_ofNat_of_lt {k : ℕ} (h : k < 256 ^ n) : (ofNat n k).toNat = k := by
  rw [toNat, ofNat, Bytes.toNat_ofNat, Nat.mod_eq_of_lt h]

/-- Octets are what is written for the number that they stand for. -/
theorem ofNat_toNat (o : Octets n) : ofNat n o.toNat = o :=
  toNat_inj (toNat_ofNat_of_lt o.toNat_lt)

/-- Zeros at the end do not count. -/
theorem toNat_join_zero (o : Octets 32) : (join o (.zero 32)).toNat = o.toNat := by
  rw [toNat, join, Bytes.toNat_append, zero, Bytes.toNat_replicate_zero, mul_zero, add_zero, toNat]

end Octets

end EdwardsSignature
