import EdwardsSignature.Proofs.Key.Reachable

/-!
# Secret scalars are not zero

A clamped number is eight times a number between `2 ^ 251` and `2 ^ 252`, which is below the prime
`order`, so that it is not a multiple of it (`not_order_dvd_toNat_clamp`). The secret integer of a seed
is a clamped number: as a scalar, it is not `0` (`Standard.cast_secret_ne_zero`), and the public keys of
seeds generate the group that the base point generates (`Standard.eight_nsmul_publicPoint_ne_zero`,
`Standard.addOrderOf_publicPoint`). So every expansion makes a sound key pair
(`PrivateKey.keyPair_of_expansion`).

And a private key that is derived from its seed is never taken for one that has been wiped: every key
there can be is one or the other (`PrivateKey.Reachable.live_xor_wiped`).
-/

namespace EdwardsSignature

/-- A clamped number is not a multiple of `order`. -/
theorem not_order_dvd_toNat_clamp (o : Octets 32) : ¬order ∣ (clamp o).toNat := by
  intro hdvd
  obtain ⟨n, hn⟩ := eight_dvd_toNat_clamp o
  have hle := le_toNat_clamp o
  have hlt := toNat_clamp_lt o
  -- The odd factor would be a multiple as well, and is too small for that.
  have hcoprime : Nat.Coprime order 8 := by decide +kernel
  have horder_le := Nat.le_of_dvd (by omega) (hcoprime.dvd_of_dvd_mul_left (hn ▸ hdvd))
  have horder : 2 ^ 252 < order := by decide
  omega

namespace Standard

/-- The secret integer of a seed is the first half of its digest, clamped. -/
theorem secret_eq (seed : Octets 32) :
    secret seed = (clamp (Sha512.digest seed.bytes).lower).toNat := by
  rw [toNat_clamp, secret]

theorem not_order_dvd_secret (seed : Octets 32) : ¬order ∣ secret seed :=
  secret_eq seed ▸ not_order_dvd_toNat_clamp _

theorem cast_secret_ne_zero (seed : Octets 32) : (secret seed : Scalar) ≠ 0 := by
  intro h
  rw [← Nat.cast_zero, Scalar.cast_eq_cast_iff, Nat.modEq_zero_iff_dvd] at h
  exact not_order_dvd_secret seed h

/-- The public key of a seed is not of small order. -/
theorem eight_nsmul_publicPoint_ne_zero (seed : Octets 32) : 8 • publicPoint seed ≠ 0 := by
  intro h
  rw [publicPoint, nsmul_left_comm, ← zero_nsmul (8 • CurvePoint.base),
    Scalar.nsmul_eq_nsmul_right_iff, Nat.cast_zero] at h
  exact h.elim CurvePoint.eight_nsmul_base_ne_zero (cast_secret_ne_zero seed)

/-- The public key of a seed has the order of the base point. -/
theorem addOrderOf_publicPoint (seed : Octets 32) : addOrderOf (publicPoint seed) = order := by
  apply addOrderOf_eq_prime
  · rw [publicPoint, nsmul_left_comm, CurvePoint.order_nsmul_base, nsmul_zero]
  · intro h
    exact eight_nsmul_publicPoint_ne_zero seed (by rw [h, nsmul_zero])

end Standard

namespace PrivateKey

theorem ofSeed_scalar_ne_zero (seed : Octets 32) : (ofSeed seed).scalar ≠ 0 :=
  ofSeed_scalar seed ▸ Standard.cast_secret_ne_zero seed

/-- Of an expansion, the second half is the nonce key as it is, and the first half, clamped, stands for
    a multiple of eight of 255 bits that is not a multiple of `order`; clamping once more changes
    nothing. So the public key of a seed, which is computed with the clamped number reduced, is the
    multiple of the base point by the number itself. It is not the identity, nor of small order, but has
    the order of the base point. -/
theorem keyPair_of_expansion :
    (∀ o, clamp (clamp o) = clamp o) ∧
    (∀ expansion : Octets 64,
      (expand expansion).2 = expansion.upper ∧
      (expand expansion).1 = clamp expansion.lower ∧
      (expand expansion).1.toNat = 2 ^ 254 + 8 * (expansion.lower.toNat / 8 % 2 ^ 251) ∧
      8 ∣ (expand expansion).1.toNat ∧
      2 ^ 254 ≤ (expand expansion).1.toNat ∧ (expand expansion).1.toNat < 2 ^ 255 ∧
      (expand expansion).1.toNat % order ≠ 0) ∧
    ∀ seed : Octets 32, ∃ (d : ℕ) (A : CurvePoint),
      d = (expand (Sha512.digest seed.bytes)).1.toNat ∧ A = d • CurvePoint.base ∧
      (ofSeed seed).publicKey = .ofPoint (Point.base.multiple (d % order)) ∧
      (ofSeed seed).publicKey.Represents A ∧
      A ≠ 0 ∧ 8 • A ≠ 0 ∧ addOrderOf A = order := by
  refine ⟨clamp_clamp, fun expansion => ?_, fun seed => ?_⟩
  · have hnot := mt Nat.dvd_of_mod_eq_zero (not_order_dvd_toNat_clamp expansion.lower)
    exact ⟨rfl, rfl, toNat_clamp _, eight_dvd_toNat_clamp _, le_toNat_clamp _, toNat_clamp_lt _, hnot⟩
  · have hsecret : (expand (Sha512.digest seed.bytes)).1.toNat = Standard.secret seed :=
      (Standard.secret_eq seed).symm
    have height := Standard.eight_nsmul_publicPoint_ne_zero seed
    refine ⟨_, Standard.publicPoint seed, rfl, ?_, rfl, represents_ofSeed seed, ?_, height,
      Standard.addOrderOf_publicPoint seed⟩
    · rw [hsecret, Standard.publicPoint]
    · intro h
      exact height (by rw [h, nsmul_zero])

end PrivateKey

/-! ## Live and wiped keys -/

namespace PrivateKey

/-- All there is in the key is derived from its seed. -/
def Live (key : PrivateKey) : Prop := key = .ofSeed key.seed

/-- The secrets in the key are overwritten, and its public key is still that of a seed. -/
structure Wiped (key : PrivateKey) : Prop where
  seed_eq : key.seed = .zero 32
  scalar_eq : key.scalar = 0
  nonceKey_eq : key.nonceKey = .zero 32
  publicKey_eq : ∃ seed, key.publicKey = (ofSeed seed).publicKey

/-- The key is the other one, as it is or wiped. -/
def IsOrWiped (key' key : PrivateKey) : Prop := key' = key ∨ key' = key.wipe

variable {key key' : PrivateKey}

/-- Wiping leaves the public key. -/
theorem IsOrWiped.publicKey_eq (h : key'.IsOrWiped key) : key'.publicKey = key.publicKey := by
  rcases h with rfl | rfl
  · rfl
  · rfl

theorem IsOrWiped.wipe (h : key'.IsOrWiped key) : key'.wipe.IsOrWiped key := by
  rcases h with rfl | rfl
  · exact .inr rfl
  · exact .inr rfl

theorem IsOrWiped.trans {key'' : PrivateKey} (h' : key''.IsOrWiped key') (h : key'.IsOrWiped key) :
    key''.IsOrWiped key := by
  rcases h' with rfl | rfl
  · exact h
  · exact h.wipe

theorem Reachable.live_or_wiped (h : key.Reachable) : key.Live ∨ key.Wiped := by
  induction h with
  | ofSeed seed => exact .inl rfl
  | @wipe key _ ih =>
    have hpublic : ∃ seed, key.publicKey = (PrivateKey.ofSeed seed).publicKey := by
      rcases ih with hlive | hwiped
      · have hkey : key = .ofSeed key.seed := hlive
        exact ⟨key.seed, congrArg PrivateKey.publicKey hkey⟩
      · exact hwiped.publicKey_eq
    exact .inr ⟨rfl, rfl, rfl, hpublic⟩

/-- A key is not wiped in part: the scalar of a seed is not `0`. -/
theorem Live.not_wiped (h : key.Live) : ¬key.Wiped := by
  intro hwiped
  have hscalar := hwiped.scalar_eq
  rw [h] at hscalar
  exact ofSeed_scalar_ne_zero _ hscalar

/-- A private key is live or wiped, and not both. -/
theorem Reachable.live_xor_wiped (h : key.Reachable) : Xor key.Live key.Wiped := by
  rcases h.live_or_wiped with hlive | hwiped
  · exact .inl ⟨hlive, hlive.not_wiped⟩
  · exact .inr ⟨hwiped, fun hlive => hlive.not_wiped hwiped⟩

end PrivateKey

end EdwardsSignature
