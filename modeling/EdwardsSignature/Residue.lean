import EdwardsSignature.Repeated

/-!
# Residues

The integers modulo `m`, each represented by its *residue*, the natural number below `m`. The
coordinates of points and the scalars that points are multiplied with are residues, for two different
moduli.
-/

namespace EdwardsSignature

/-- A number that integers are counted modulo: any but `0`. -/
class Modulus (m : Nat) : Prop where
  /-- It is not `0`. -/
  pos : 0 < m

/-- A residue modulo `m`. -/
structure Residue (m : Nat) where
  /-- The representative. -/
  val : Nat
  /-- It is reduced. -/
  isLt : val < m
deriving DecidableEq

namespace Residue

variable {m : Nat}

/-- Residues are their representatives. -/
theorem ext_val {a b : Residue m} (h : a.val = b.val) : a = b := by
  cases a; cases b; simp_all

variable [Modulus m]

/-- The residue of a natural number. -/
def ofNat (m : Nat) [Modulus m] (n : Nat) : Residue m := ⟨n % m, Nat.mod_lt n Modulus.pos⟩

@[simp] theorem val_ofNat (n : Nat) : (ofNat m n).val = n % m := rfl

/-- A residue is the residue of its representative. -/
@[simp] theorem ofNat_val (a : Residue m) : ofNat m a.val = a :=
  ext_val (Nat.mod_eq_of_lt a.isLt)

instance : Zero (Residue m) := ⟨ofNat m 0⟩

instance : One (Residue m) := ⟨ofNat m 1⟩

instance : Add (Residue m) := ⟨fun a b => ofNat m (a.val + b.val)⟩

instance : Mul (Residue m) := ⟨fun a b => ofNat m (a.val * b.val)⟩

instance : Neg (Residue m) := ⟨fun a => ofNat m (m - a.val)⟩

instance : Sub (Residue m) := ⟨fun a b => ofNat m (a.val + (m - b.val))⟩

theorem val_zero : (0 : Residue m).val = 0 % m := rfl

theorem val_one : (1 : Residue m).val = 1 % m := rfl

theorem val_add (a b : Residue m) : (a + b).val = (a.val + b.val) % m := rfl

theorem val_mul (a b : Residue m) : (a * b).val = a.val * b.val % m := rfl

theorem val_neg (a : Residue m) : (-a).val = (m - a.val) % m := rfl

theorem val_sub (a b : Residue m) : (a - b).val = (a.val + (m - b.val)) % m := rfl

/-- The power of a residue to the exponent `n`. -/
def power (a : Residue m) (n : Nat) : Residue m := repeated (· * ·) 1 n a

end Residue

end EdwardsSignature
