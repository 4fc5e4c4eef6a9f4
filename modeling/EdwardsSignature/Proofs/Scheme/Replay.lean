import EdwardsSignature.Proofs.Scheme.Halves

/-!
# A signature under another key

What a scheme signs can be given to any other scheme, as a signature of any input. Its commitment and
its response can always be read there, so that all depends on the equation, and in the equation the
nonce cancels out: the multiple of the base point by challenge and secret scalar on the side of the
signer is compared with the multiple of the public key by the challenge on the side of the verifier
(`Scheme.Reachable.verify_with_other_key`). For a public key that comes from a seed as well, this
compares two products of scalars.
-/

namespace EdwardsSignature.Scheme

variable {s s' : Scheme} {input input' : Input} {A : CurvePoint}

/-- The multiple of the base point that a signer stands for, and the multiple of its own public key that
    a verifier with the public key of a seed looks for. -/
theorem eight_nsmul_publicPoint_iff (seed : Octets 32) (n k : Scalar) :
    8 • n.val • CurvePoint.base = 8 • k.val • Standard.publicPoint seed ↔
      n = k * (PrivateKey.ofSeed seed).scalar := by
  rw [← PrivateKey.scalar_nsmul_base, ← Scalar.val_mul_nsmul CurvePoint.order_nsmul_base,
    nsmul_left_comm CurvePoint.base n.val, nsmul_left_comm CurvePoint.base (k * _).val,
    Scalar.nsmul_eq_nsmul_right_iff, Scalar.cast_val, Scalar.cast_val]
  exact or_iff_right CurvePoint.eight_nsmul_base_ne_zero

/-- The challenge on the side of the verifier may be reduced. -/
theorem Admitted.eight_nsmul_challenge (hs' : s'.Admitted) (hA : s'.publicKey.Represents A)
    (R : Octets 32) :
    8 • (s'.challenge input'.isPrehashed R input'.bytes).val • A =
      Standard.challenge s'.context input' R A.encode • 8 • A := by
  rw [hs'.challenge_eq, hA.encoded_eq, nsmul_left_comm, Scalar.val_nsmul_eight_nsmul]

/-- What a scheme signs with a private key, given to any scheme there can be, as a signature of any
    input: it is accepted if the multiple of the base point by the challenge of the signer and the
    secret scalar is the multiple of the public key by the challenge of the verifier, up to a component
    of small order, and otherwise fails for the equation. Between keys of seeds, the products of
    challenges and secret scalars decide. -/
theorem Reachable.verify_with_other_key (hs' : s'.Reachable) {key : PrivateKey}
    (hkey : s.privateKey = some key) (h : input.WellFormed) (h' : input'.WellFormed) :
    ∃ signature A k k',
      s.sign input = .ok signature ∧ s'.publicKey.Represents A ∧
      k = s.challenge input.isPrehashed signature.commitment input.bytes ∧
      k' = s'.challenge input'.isPrehashed signature.commitment input'.bytes ∧
      (s'.verify input' signature.toOctets.bytes =
        if 8 • (k * key.scalar).val • CurvePoint.base = 8 • k'.val • A then .ok ()
        else .error (.notAuthentic .equation)) ∧
      ∀ seed, s'.publicKey.encoded = (PrivateKey.ofSeed seed).publicKey.encoded →
        (8 • (k * key.scalar).val • CurvePoint.base = 8 • k'.val • A ↔
          k * key.scalar = k' * (PrivateKey.ofSeed seed).scalar) := by
  obtain ⟨A, hA⟩ := hs'.admitted.represents
  refine ⟨_, A, _, _, sign_eq_ok h hkey, hA, rfl, rfl, ?_, ?_⟩
  · rw [hs'.admitted.verify_signPayload s key _ _ hA h', hs'.admitted.eight_nsmul_challenge hA,
      nsmul_left_comm CurvePoint.base]
  · intro seed hencoded
    rw [hA.encoded_eq, (PrivateKey.represents_ofSeed seed).encoded_eq] at hencoded
    obtain rfl := CurvePoint.encode_injective hencoded
    exact eight_nsmul_publicPoint_iff seed _ _

/-- What is signed with the seed `0` is rejected with the public key of the seed `1`. -/
theorem verify_with_other_key_one :
    (signer (.ofSeed (.ofNat 32 1)) []).Reachable ∧
    ∃ signature, (signer (.ofSeed (.zero 32)) []).sign (.message []) = .ok signature ∧
      (signer (.ofSeed (.ofNat 32 1)) []).verify (.message []) signature.toOctets.bytes =
        .error (.notAuthentic .equation) := by
  have hinput : (Input.message []).WellFormed := trivial
  have hs' : (signer (.ofSeed (.ofNat 32 1)) []).Reachable := reachable_signer (Nat.zero_le _) _
  obtain ⟨signature, A, k, k', hsign, -, hk, hk', hverify, hseed⟩ :=
    Reachable.verify_with_other_key (s := signer (.ofSeed (.zero 32)) []) hs' rfl hinput hinput
  refine ⟨hs', signature, hsign, hverify.trans (if_neg ?_)⟩
  rw [hseed (.ofNat 32 1) rfl]
  -- The signature is the one that is computed, so that the challenges can be.
  rw [sign_eq_ok hinput rfl] at hsign
  obtain rfl := Except.ok.inj hsign
  rw [hk, hk']
  decide +kernel

end EdwardsSignature.Scheme
