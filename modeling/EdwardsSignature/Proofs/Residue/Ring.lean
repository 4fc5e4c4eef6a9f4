import EdwardsSignature.Proofs.Residue.Repeated
import EdwardsSignature.Residue
import Mathlib.Data.ZMod.Basic

/-!
# The ring of residues

The residues modulo `m` are a commutative ring, with the operations that they are computed with. The
laws come from the ring `ZMod m`, in which every residue has its class (`Residue.toZMod`): no two
residues have the same one, and the operations on residues are those on classes. Powers of residues
are computed by `Residue.power`, which makes it their power as elements of a ring, by definition.
-/

namespace EdwardsSignature.Residue

variable {m : ℕ}

/-- The class of a residue. -/
def toZMod (a : Residue m) : ZMod m := (a.val : ZMod m)

/-- Residues in one class are equal. -/
theorem toZMod_injective : Function.Injective (toZMod : Residue m → ZMod m) := by
  intro a b h
  have hmod : a.val % m = b.val % m := (ZMod.natCast_eq_natCast_iff' _ _ _).1 h
  rw [Nat.mod_eq_of_lt a.isLt, Nat.mod_eq_of_lt b.isLt] at hmod
  exact ext_val hmod

/-- What is added to a residue to give the modulus is in the negative of its class. -/
theorem cast_sub_val (a : Residue m) : ((m - a.val : ℕ) : ZMod m) = -toZMod a := by
  rw [Nat.cast_sub a.isLt.le, ZMod.natCast_self, zero_sub, toZMod]

variable [Modulus m]

/-- Reducing a number does not change its class. -/
@[simp] theorem toZMod_ofNat (n : ℕ) : toZMod (ofNat m n) = n := ZMod.natCast_mod n m

instance : NatCast (Residue m) := ⟨ofNat m⟩

instance : IntCast (Residue m) := ⟨fun n => ofNat m (n % m).toNat⟩

instance : SMul ℕ (Residue m) := ⟨fun n a => ofNat m (n * a.val)⟩

instance : SMul ℤ (Residue m) := ⟨fun n a => (n : Residue m) * a⟩

instance : Pow (Residue m) ℕ := ⟨power⟩

/-! ## Operations on classes -/

theorem toZMod_zero : toZMod (0 : Residue m) = 0 := by
  rw [toZMod, val_zero, ZMod.natCast_mod, Nat.cast_zero]

theorem toZMod_one : toZMod (1 : Residue m) = 1 := by
  rw [toZMod, val_one, ZMod.natCast_mod, Nat.cast_one]

theorem toZMod_add (a b : Residue m) : toZMod (a + b) = toZMod a + toZMod b := by
  rw [toZMod, val_add, ZMod.natCast_mod, Nat.cast_add, toZMod, toZMod]

theorem toZMod_mul (a b : Residue m) : toZMod (a * b) = toZMod a * toZMod b := by
  rw [toZMod, val_mul, ZMod.natCast_mod, Nat.cast_mul, toZMod, toZMod]

theorem toZMod_neg (a : Residue m) : toZMod (-a) = -toZMod a := by
  rw [toZMod, val_neg, ZMod.natCast_mod, cast_sub_val]

theorem toZMod_sub (a b : Residue m) : toZMod (a - b) = toZMod a - toZMod b := by
  rw [toZMod, val_sub, ZMod.natCast_mod, Nat.cast_add, cast_sub_val, sub_eq_add_neg, toZMod, toZMod]

theorem toZMod_intCast (n : ℤ) : toZMod (n : Residue m) = n := by
  have hm : (m : ℤ) ≠ 0 := Int.natCast_ne_zero.2 (Modulus.pos : 0 < m).ne'
  have hnat : (((n % m).toNat : ℤ) : ZMod m) = n := by
    rw [Int.toNat_of_nonneg (Int.emod_nonneg n hm), ZMod.intCast_mod]
  exact (toZMod_ofNat _).trans (by exact_mod_cast hnat)

/-- Powers of residues are powers of classes: there is one invariant of the halving, the class that
    belongs to a number of copies. -/
theorem toZMod_power (a : Residue m) (n : ℕ) : toZMod (a.power n) = toZMod a ^ n := by
  refine repeated_induction (r := fun n b => toZMod b = toZMod a ^ n) ?_ (pow_one _).symm ?_ n
  · exact toZMod_one.trans (pow_zero _).symm
  · intro m n b c hb hc
    rw [toZMod_mul, hb, hc, pow_add]

/-! ## The ring -/

/-- The residues are a commutative ring, as the classes are. -/
instance : CommRing (Residue m) :=
  toZMod_injective.commRing toZMod toZMod_zero toZMod_one toZMod_add toZMod_mul toZMod_neg toZMod_sub
    (fun n a => (toZMod_ofNat _).trans (by rw [Nat.cast_mul, nsmul_eq_mul, toZMod]))
    (fun n a => (toZMod_mul _ _).trans (by rw [toZMod_intCast, zsmul_eq_mul]))
    toZMod_power toZMod_ofNat toZMod_intCast

/-- The computed power is the power in the ring. -/
theorem power_eq_pow (a : Residue m) (n : ℕ) : a.power n = a ^ n := rfl

end EdwardsSignature.Residue
