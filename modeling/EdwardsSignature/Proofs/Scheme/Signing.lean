import EdwardsSignature.Proofs.Scheme.Challenge
import EdwardsSignature.Scheme.Sign

/-!
# Signing is what the standard says

A scheme refuses a digest of the wrong size, then signs nothing without a private key, and otherwise
signs (`Scheme.sign_cases`). With the key pair of a seed, the signature is the one of the standard
(`Scheme.Reachable.sign_outcomes`): secret, nonce and challenge are reduced on the way, which the
commitment does not show, as the base point has the order `order`, and neither does the response,
which is reduced itself.
-/

namespace EdwardsSignature.Scheme

variable {s : Scheme} {input : Input}

/-! ## The outcomes -/

/-- The payload is looked at before the private key. -/
theorem sign_of_not_wellFormed (h : ¬input.WellFormed) :
    s.sign input = .error (.invalidPrehash 64 input.bytes.length) := by
  rw [sign, Input.payload_of_not_wellFormed h]

theorem sign_of_privateKey_eq_none (h : input.WellFormed) (hkey : s.privateKey = none) :
    s.sign input = .error .privateKeyRequired := by
  rw [sign, Input.payload_of_wellFormed h]
  simp only [hkey]

theorem sign_eq_ok (h : input.WellFormed) {key : PrivateKey} (hkey : s.privateKey = some key) :
    s.sign input = .ok (s.signPayload key input.isPrehashed input.bytes) := by
  rw [sign, Input.payload_of_wellFormed h]
  simp only [hkey]

/-- The three outcomes, of which each excludes the others. -/
theorem sign_cases (s : Scheme) (input : Input) :
    (¬input.WellFormed ∧ s.sign input = .error (.invalidPrehash 64 input.bytes.length)) ∨
    (input.WellFormed ∧ s.privateKey = none ∧ s.sign input = .error .privateKeyRequired) ∨
    (input.WellFormed ∧ ∃ key, s.privateKey = some key ∧
      s.sign input = .ok (s.signPayload key input.isPrehashed input.bytes)) := by
  by_cases h : input.WellFormed
  · cases hkey : s.privateKey with
    | none => exact .inr (.inl ⟨h, rfl, sign_of_privateKey_eq_none h hkey⟩)
    | some key => exact .inr (.inr ⟨h, key, rfl, sign_eq_ok h hkey⟩)
  · exact .inl ⟨h, sign_of_not_wellFormed h⟩

/-- A signature that is made is one with the private key of the scheme. -/
theorem eq_of_sign_eq_ok {signature : Signature} (h : s.sign input = .ok signature) :
    ∃ key, s.privateKey = some key ∧
      signature = s.signPayload key input.isPrehashed input.bytes := by
  rcases s.sign_cases input with ⟨-, hsign⟩ | ⟨-, -, hsign⟩ | ⟨-, key, hkey, hsign⟩ <;>
    rw [hsign] at h <;> cases h
  exact ⟨key, hkey, rfl⟩

/-! ## The signature -/

section

variable (s : Scheme) (key : PrivateKey) (prehashed : Bool) (payload : Bytes)

/-- The commitment is the multiple of the base point by the nonce. -/
theorem commitment_signPayload :
    (s.signPayload key prehashed payload).commitment =
      ((s.nonce prehashed key.nonceKey payload).val • CurvePoint.base).encode :=
  (Point.represents_base.multiple _).encode_eq

/-- The response is reduced. -/
theorem toNat_response_signPayload :
    (s.signPayload key prehashed payload).response.toNat =
      (s.nonce prehashed key.nonceKey payload +
        s.challenge prehashed (s.signPayload key prehashed payload).commitment payload *
          key.scalar).val :=
  Scalar.toNat_toOctets _

end

/-- The commitment and the response with the private key of a seed, whatever the public key that the
    scheme has. -/
theorem Admitted.signPayload_ofSeed (hs : s.Admitted) (input : Input) (seed : Octets 32) :
    s.signPayload (.ofSeed seed) input.isPrehashed input.bytes =
      ⟨Standard.commitment seed s.context input,
        .ofNat 32 (Standard.response seed s.context input s.publicKey.encoded)⟩ := by
  have hkey : (PrivateKey.ofSeed seed).nonceKey = Standard.nonceKey seed := rfl
  have hcommitment : (Point.base.multiple
      (Standard.nonce seed s.context input : Scalar).val).encode =
        Standard.commitment seed s.context input := by
    rw [(Point.represents_base.multiple _).encode_eq, Scalar.val_nsmul_base, Standard.commitment]
  rw [signPayload]
  simp only [hkey, hs.nonce_eq, hcommitment, hs.challenge_eq, PrivateKey.ofSeed_scalar]
  rw [← Nat.cast_mul, ← Nat.cast_add, Scalar.toOctets, Scalar.val_cast, Standard.response]

/-- The bytes of the signature. -/
theorem Admitted.toOctets_signPayload_ofSeed (hs : s.Admitted) (input : Input) (seed : Octets 32) :
    (s.signPayload (.ofSeed seed) input.isPrehashed input.bytes).toOctets.bytes =
      (Standard.commitment seed s.context input).bytes ++
        Bytes.ofNat 32 (Standard.response seed s.context input s.publicKey.encoded) := by
  rw [hs.signPayload_ofSeed]
  rfl

/-- With the public key of the seed, the signature is the one of the standard. -/
theorem Admitted.toOctets_signPayload (hs : s.Admitted) (input : Input) {seed : Octets 32}
    (hencoded : s.publicKey.encoded = (PrivateKey.ofSeed seed).publicKey.encoded) :
    (s.signPayload (.ofSeed seed) input.isPrehashed input.bytes).toOctets.bytes =
      Standard.signature seed s.context input := by
  rw [hs.toOctets_signPayload_ofSeed, hencoded, (PrivateKey.represents_ofSeed seed).encoded_eq,
    Standard.signature]

/-- What signing gives, for every scheme there can be: a digest of the wrong size is refused whether
    or not there is a private key, a private key is asked for only then, and the private key of a seed
    signs. What it signs is the signature of the standard, if the scheme has the public key of the seed
    as well, and otherwise responds to the challenge for the public key that the scheme has. -/
theorem Reachable.sign_outcomes (hs : s.Reachable) (input : Input) :
    (s.sign input = .error (.invalidPrehash 64 input.bytes.length) ↔ ¬input.WellFormed) ∧
    (s.sign input = .error .privateKeyRequired ↔ input.WellFormed ∧ s.privateKey = none) ∧
    ((∃ signature, s.sign input = .ok signature) ↔ input.WellFormed ∧ s.privateKey ≠ none) ∧
    ∀ seed, s.privateKey = some (.ofSeed seed) → input.WellFormed →
      ∃ signature, s.sign input = .ok signature ∧
        signature.toOctets.bytes = (Standard.commitment seed s.context input).bytes ++
          Bytes.ofNat 32 (Standard.response seed s.context input s.publicKey.encoded) ∧
        (s.publicKey.encoded = (PrivateKey.ofSeed seed).publicKey.encoded →
          signature.toOctets.bytes = Standard.signature seed s.context input) := by
  refine ⟨?_, ?_, ?_, ?_⟩
  · rcases s.sign_cases input with ⟨h, hsign⟩ | ⟨h, -, hsign⟩ | ⟨h, key, -, hsign⟩ <;> simp [hsign, h]
  · rcases s.sign_cases input with ⟨h, hsign⟩ | ⟨h, hkey, hsign⟩ | ⟨h, key, hkey, hsign⟩
    · simp [hsign, h]
    · simp [hsign, h, hkey]
    · simp [hsign, hkey]
  · rcases s.sign_cases input with ⟨h, hsign⟩ | ⟨h, hkey, hsign⟩ | ⟨h, key, hkey, hsign⟩
    · simp [hsign, h]
    · simp [hsign, hkey]
    · simp [hsign, h, hkey]
  · intro seed hkey h
    exact ⟨_, sign_eq_ok h hkey, hs.admitted.toOctets_signPayload_ofSeed input seed,
      hs.admitted.toOctets_signPayload input⟩

/-- The case of the seed of zeros, in a context, with a digest of zeros. -/
theorem sign_outcomes_zero :
    (signer (.ofSeed (.zero 32)) [1, 2, 3]).Reachable ∧
    (Input.prehashed (List.replicate 64 0)).WellFormed ∧
    ∃ signature,
      (signer (.ofSeed (.zero 32)) [1, 2, 3]).sign (.prehashed (List.replicate 64 0)) =
        .ok signature ∧
      signature.toOctets.bytes =
        Standard.signature (.zero 32) [1, 2, 3] (.prehashed (List.replicate 64 0)) := by
  have hs : (signer (.ofSeed (.zero 32)) [1, 2, 3]).Reachable := reachable_signer (by decide) _
  have hinput : (Input.prehashed (List.replicate 64 0)).WellFormed := by decide
  obtain ⟨signature, hsign, -, hbytes⟩ := (Reachable.sign_outcomes hs _).2.2.2 _ rfl hinput
  exact ⟨hs, hinput, signature, hsign, hbytes (by rw [signer_publicKey])⟩

end EdwardsSignature.Scheme
