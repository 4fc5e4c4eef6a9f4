import EdwardsSignature.Curve.Field
import EdwardsSignature.Proofs.Residue.Ring
import EdwardsSignature.Scalar
import Mathlib.Data.List.Prime
import Mathlib.FieldTheory.Finite.Basic
import Mathlib.NumberTheory.LucasPrimality

/-!
# The moduli are prime

The modulus of the coordinates and the modulus of the scalars are prime (`fieldPrime_prime`,
`order_prime`). A number `p` is shown to be prime by a residue modulo `p` whose powers first return to
`1` at the exponent `p - 1`: this is so if they do return there, and do not at `(p - 1) / q` for any
prime factor `q` of `p - 1`. A *certificate* gives the residue and the factors, which have
certificates themselves, down to the certificate of `2`. The powers are computed by `Residue.power`.

Modulo a prime, a power inverts the residues other than `0` (`Residue.mul_power_sub_two`), by Fermat's
little theorem.
-/

namespace EdwardsSignature

/-- What shows that a number is prime. -/
structure Certificate where
  /-- The residue whose powers are looked at. -/
  base : ℕ
  /-- The prime factors of the number before the one that is certified. -/
  factors : List ℕ

namespace Certificate

/-- The number that is certified. -/
def number (c : Certificate) : ℕ := c.factors.prod + 1

instance (c : Certificate) : Modulus c.number := ⟨Nat.succ_pos _⟩

/-- The power of the base of a certificate to the exponent `n`. -/
def power (c : Certificate) (n : ℕ) : Residue c.number := (Residue.ofNat c.number c.base).power n

/-- The certificate holds good, if the numbers that are `known` are prime. -/
def Holds (c : Certificate) (known : List ℕ) : Prop :=
  (∀ q ∈ c.factors, q ∈ known) ∧ c.power (c.number - 1) = 1 ∧
    ∀ q ∈ c.factors, c.power ((c.number - 1) / q) ≠ 1

instance (c : Certificate) (known : List ℕ) : Decidable (c.Holds known) :=
  inferInstanceAs (Decidable (_ ∧ _ ∧ _))

/-- Each certificate of a list holds good, given the numbers certified after it. -/
def Chain : List Certificate → Prop
  | [] => True
  | c :: cs => c.Holds (cs.map number) ∧ Chain cs

instance Chain.decidable : (cs : List Certificate) → Decidable (Chain cs)
  | [] => inferInstanceAs (Decidable True)
  | _ :: cs => have := Chain.decidable cs; inferInstanceAs (Decidable (_ ∧ _))

/-- A power is `1` exactly if the power of the class of the base is. -/
theorem power_eq_one_iff (c : Certificate) (n : ℕ) :
    c.power n = 1 ↔ (c.base : ZMod c.number) ^ n = 1 := by
  rw [← Residue.toZMod_injective.eq_iff, Residue.toZMod_one, power, Residue.toZMod_power,
    Residue.toZMod_ofNat]

/-- What a good certificate is for is prime. -/
theorem Holds.prime {c : Certificate} {known : List ℕ} (h : c.Holds known)
    (hknown : ∀ q ∈ known, q.Prime) : c.number.Prime := by
  obtain ⟨hfactors, hone, hne⟩ := h
  refine lucas_primality _ (c.base : ZMod c.number) ((c.power_eq_one_iff _).1 hone) ?_
  intro q hq hdvd
  -- Having no other prime factors than those listed is what the product is for.
  have hmem : q ∈ c.factors := mem_list_primes_of_dvd_prod hq.prime
    (fun r hr => (hknown r (hfactors r hr)).prime) hdvd
  exact fun hpow => hne q hmem ((c.power_eq_one_iff _).2 hpow)

/-- What the certificates of a chain are for is prime. -/
theorem Chain.prime {cs : List Certificate} (h : Chain cs) : ∀ p ∈ cs.map number, p.Prime := by
  induction cs with
  | nil => exact fun p hp => absurd hp List.not_mem_nil
  | cons c cs ih =>
    obtain ⟨hc, hcs⟩ := h
    intro p hp
    rcases List.mem_cons.1 hp with rfl | hp
    · exact hc.prime (ih hcs)
    · exact ih hcs p hp

end Certificate

/-- The certificates of the two moduli, with those of all the factors, from the greatest number to the
    least. -/
def certificates : List Certificate :=
  [⟨2, [2, 2, 3, 65147, 74058212732561358302231226437062788676166966415465897661863160754340907]⟩,
   ⟨2, [2, 2, 3, 11, 198211423230930754013084525763697,
      276602624281642239937218680557139826668747]⟩,
   ⟨2, [2, 3, 353, 57467, 132049, 1923133, 31757755568855353,
      75445702479781427272750846543864801]⟩,
   ⟨2, [2, 7, 19757330305831588566944191468367130476339]⟩,
   ⟨2, [2, 269, 213441916511, 172054593956031949258510691]⟩,
   ⟨7, [2, 2, 2, 2, 2, 3, 3, 5, 5, 75707, 72106336199, 1919519569386763]⟩,
   ⟨5, [2, 2, 2, 2, 3, 23, 58964693, 3044861653679985063343]⟩,
   ⟨2, [2, 5, 1361, 2851, 4434155615661930479]⟩, ⟨5, [2, 3, 11, 30703, 82163, 132667, 137849]⟩,
   ⟨17, [2, 41, 43, 1257559732178653]⟩, ⟨10, [2, 2, 2, 3, 31, 107, 223, 4153, 430751]⟩,
   ⟨2, [2, 3, 7, 19, 47, 47, 127, 8574133]⟩, ⟨2, [2, 2, 3, 7, 23, 531581, 1224481]⟩,
   ⟨13, [2, 5, 73, 292386187]⟩, ⟨7, [2, 13, 2773320623]⟩, ⟨5, [2, 2437, 569003]⟩,
   ⟨2, [2, 3, 3, 3, 3, 307, 5879]⟩, ⟨2, [2, 2, 14741173]⟩, ⟨2, [2, 2, 3, 3, 409477]⟩,
   ⟨2, [2, 2, 3, 7, 103, 991]⟩, ⟨2, [2, 2, 3, 43, 3727]⟩, ⟨13, [2, 2, 2, 2, 2, 3, 5, 2551]⟩,
   ⟨2, [2, 7, 97, 419]⟩, ⟨2, [2, 2, 5, 7, 3797]⟩, ⟨17, [2, 5, 5, 5, 1723]⟩,
   ⟨2, [2, 2, 3, 34123]⟩, ⟨3, [2, 2, 2, 17231]⟩, ⟨5, [2, 3, 22111]⟩,
   ⟨26, [2, 2, 2, 2, 3, 3, 7, 131]⟩, ⟨2, [2, 41081]⟩, ⟨2, [2, 37853]⟩, ⟨2, [2, 32573]⟩,
   ⟨2, [2, 59, 487]⟩, ⟨3, [2, 2, 2, 5, 13, 79]⟩, ⟨2, [2, 2, 9463]⟩, ⟨2, [2, 3, 11, 11, 47]⟩,
   ⟨2, [2, 2, 17, 479]⟩, ⟨3, [2, 3, 7, 17, 43]⟩, ⟨6, [2, 3, 5, 11, 67]⟩, ⟨13, [2, 5, 1723]⟩,
   ⟨3, [2, 3, 19, 83]⟩, ⟨11, [2, 2939]⟩, ⟨5, [2, 2, 2, 3, 173]⟩, ⟨2, [2, 2, 13, 73]⟩,
   ⟨3, [2, 3, 3, 3, 3, 23]⟩, ⟨2, [2, 13, 113]⟩, ⟨2, [2, 3, 5, 5, 19]⟩, ⟨6, [2, 3, 5, 5, 17]⟩,
   ⟨2, [2, 2, 3, 7, 29]⟩, ⟨3, [2, 3, 7, 41]⟩, ⟨3, [2, 2, 2, 2, 5, 17]⟩, ⟨6, [2, 3, 3, 5, 11]⟩,
   ⟨3, [2, 3, 3, 3, 3, 3]⟩, ⟨13, [2, 239]⟩, ⟨2, [2, 11, 19]⟩, ⟨3, [2, 2, 2, 2, 2, 11]⟩,
   ⟨5, [2, 3, 3, 17]⟩, ⟨2, [2, 2, 67]⟩, ⟨7, [2, 7, 17]⟩, ⟨3, [2, 3, 37]⟩, ⟨2, [2, 2, 43]⟩,
   ⟨2, [2, 5, 13]⟩, ⟨3, [2, 3, 3, 7]⟩, ⟨3, [2, 2, 2, 2, 7]⟩, ⟨2, [2, 53]⟩, ⟨5, [2, 3, 17]⟩,
   ⟨5, [2, 2, 2, 2, 2, 3]⟩, ⟨2, [2, 41]⟩, ⟨3, [2, 3, 13]⟩, ⟨5, [2, 2, 2, 3, 3]⟩, ⟨2, [2, 3, 11]⟩,
   ⟨2, [2, 29]⟩, ⟨2, [2, 2, 13]⟩, ⟨5, [2, 23]⟩, ⟨3, [2, 3, 7]⟩, ⟨6, [2, 2, 2, 5]⟩,
   ⟨2, [2, 2, 3, 3]⟩, ⟨3, [2, 3, 5]⟩, ⟨2, [2, 2, 7]⟩, ⟨5, [2, 11]⟩, ⟨2, [2, 3, 3]⟩,
   ⟨3, [2, 2, 2, 2]⟩, ⟨2, [2, 2, 3]⟩, ⟨2, [2, 5]⟩, ⟨3, [2, 3]⟩, ⟨2, [2, 2]⟩, ⟨2, [2]⟩, ⟨1, []⟩]

theorem certificates_chain : Certificate.Chain certificates := by decide +kernel

/-- The modulus of the coordinates is prime. -/
theorem fieldPrime_prime : fieldPrime.Prime :=
  certificates_chain.prime _ (by decide +kernel)

/-- The modulus of the scalars is prime. -/
theorem order_prime : order.Prime :=
  certificates_chain.prime _ (by decide +kernel)

instance : Fact fieldPrime.Prime := ⟨fieldPrime_prime⟩

instance : Fact order.Prime := ⟨order_prime⟩

/-! ## Residues modulo a prime -/

namespace Residue

variable {m : ℕ} [Modulus m] [Fact m.Prime] {a : Residue m}

/-- A residue other than `0` to the number of those residues. -/
theorem pow_sub_one (ha : a ≠ 0) : a ^ (m - 1) = 1 := by
  -- The classes are known to be a field, as the modulus is prime.
  have hclass : toZMod a ≠ 0 := toZMod_zero (m := m) ▸ toZMod_injective.ne ha
  apply toZMod_injective
  rw [← power_eq_pow, toZMod_power, toZMod_one]
  exact ZMod.pow_card_sub_one_eq_one hclass

/-- The power to two less than the modulus is an inverse. -/
theorem mul_power_sub_two (ha : a ≠ 0) : a * a.power (m - 2) = 1 := by
  have hm : 2 ≤ m := (Fact.out : m.Prime).two_le
  have hexp : m - 2 + 1 = m - 1 := by omega
  rw [power_eq_pow, ← pow_succ', hexp, pow_sub_one ha]

end Residue

end EdwardsSignature
