import EdwardsSignature.Proofs.Key.Secret
import EdwardsSignature.Proofs.Scheme.Halves

/-!
# What wiped keys sign

A wiped key still signs, with `0` for the secret scalar and zeros for the nonce key, and has its public
key still. Of what it signs, the commitment is the multiple of the base point by the nonce and the
response is the nonce itself (`Scheme.signPayload_wipe`): the challenge does not matter, and with it the
public key, so that the signature is the same for all keys, and anyone can make it.

It is not authentic: in verification the nonce cancels out, and what remains is the multiple of the
public key by the challenge, whose eightfold would have to be `0`. As the public key of a seed is not of
small order, this is so for the challenge `0` only (`Scheme.sign_wiped`).
-/

namespace EdwardsSignature

namespace Scheme

variable {s s' : Scheme} {input input' : Input}

/-- With a wiped key, the response is the nonce. -/
theorem signPayload_wipe (s : Scheme) (key : PrivateKey) (prehashed : Bool) (payload : Bytes) :
    s.signPayload key.wipe prehashed payload =
      ⟨((s.nonce prehashed (.zero 32) payload).val • CurvePoint.base).encode,
        (s.nonce prehashed (.zero 32) payload).toOctets⟩ := by
  have hscalar : key.wipe.scalar = 0 := rfl
  have hnonceKey : key.wipe.nonceKey = .zero 32 := rfl
  rw [signPayload, hscalar, hnonceKey]
  simp only [mul_zero, add_zero, (Point.represents_base.multiple _).encode_eq]

/-- With zeros for the nonce key, the nonce comes from the context and the input alone. -/
theorem Admitted.nonce_zero (hs : s.Admitted) (input : Input) :
    s.nonce input.isPrehashed (.zero 32) input.bytes =
      (Standard.digestInteger
        (Standard.domain s.context input ++ List.replicate 32 0 ++ input.bytes) : Scalar) := by
  rw [nonce, nonceInput, hs.domain_eq, Scalar.ofWide_eq_cast]
  rfl

/-- What is signed with a wiped key, verified with the public key of any seed: there is `0` on the side of
    the signer, as the secret scalar is. -/
theorem Admitted.verify_signPayload_wipe (hs' : s'.Admitted) {seed : Octets 32}
    (hA : s'.publicKey.Represents (Standard.publicPoint seed)) (h' : input'.WellFormed) (s : Scheme)
    (key : PrivateKey) (prehashed : Bool) (payload : Bytes) :
    s'.verify input' (s.signPayload key.wipe prehashed payload).toOctets.bytes =
      if s'.challenge input'.isPrehashed (s.signPayload key.wipe prehashed payload).commitment
        input'.bytes = 0 then .ok () else .error (.notAuthentic .equation) := by
  have hscalar : key.wipe.scalar = 0 := rfl
  have hzero : (0 : Scalar).val = 0 := rfl
  have hnone := Scalar.nsmul_eq_nsmul_right_iff (m := 0) (A := Standard.publicPoint seed)
    (n := Standard.challenge s'.context input'
      (s.signPayload key.wipe prehashed payload).commitment (Standard.publicPoint seed).encode)
  rw [zero_nsmul, Nat.cast_zero, or_iff_right (Standard.eight_nsmul_publicPoint_ne_zero seed),
    eq_comm (a := (0 : Scalar))] at hnone
  rw [hs'.verify_signPayload s key.wipe prehashed payload hA h']
  refine if_congr ?_ rfl rfl
  rw [hscalar, mul_zero, hzero, zero_nsmul, hnone, hs'.challenge_eq, hA.encoded_eq]

/-- The keys of all seeds, wiped, sign an input in a context, and all of them with the same signature. It
    consists of a nonce that comes from the context and the input alone, once multiplied with the base
    point and once as it is. A scheme that has the public key of the seed, which wiping does not change,
    accepts it as a signature of an input if the challenge is `0`, and otherwise rejects it for the
    equation. -/
theorem sign_wiped {context : Bytes} (hcontext : context.length ≤ 255) (h : input.WellFormed) :
    ∃ (r : Scalar) (signature : Signature),
      r = (Standard.digestInteger
        (Standard.domain context input ++ List.replicate 32 0 ++ input.bytes) : Scalar) ∧
      signature.toOctets.bytes = (r.val • CurvePoint.base).encode.bytes ++ r.toOctets.bytes ∧
      ∀ seed, ∃ s,
        ofKeyNamed (PrivateKey.ofSeed seed).wipe.toKey "rfc8032" context = .ok s ∧
        s.sign input = .ok signature ∧
        s.publicKey = (PrivateKey.ofSeed seed).publicKey ∧
        ∀ (s' : Scheme) (input' : Input), s'.Reachable →
          s'.publicKey.encoded = s.publicKey.encoded → input'.WellFormed →
          s'.verify input' signature.toOctets.bytes =
            if s'.challenge input'.isPrehashed signature.commitment input'.bytes = 0 then .ok ()
            else .error (.notAuthentic .equation) := by
  obtain ⟨r, hr⟩ : ∃ r : Scalar, r = (Standard.digestInteger
    (Standard.domain context input ++ List.replicate 32 0 ++ input.bytes) : Scalar) := ⟨_, rfl⟩
  refine ⟨r, ⟨(r.val • CurvePoint.base).encode, r.toOctets⟩, hr, rfl, fun seed => ?_⟩
  have hkey : (PrivateKey.ofSeed seed).wipe.Reachable := .wipe (.ofSeed seed)
  have hmade := ofKeyNamed_privateKey hcontext (PrivateKey.ofSeed seed).wipe
  have hnonce := ((Reachable.ofKeyNamed hkey.toKey hmade).admitted.nonce_zero input).trans hr.symm
  have hsignature := signPayload_wipe (signer (PrivateKey.ofSeed seed).wipe context)
    (PrivateKey.ofSeed seed) input.isPrehashed input.bytes
  rw [hnonce] at hsignature
  refine ⟨_, hmade, (sign_eq_ok h rfl).trans (congrArg Except.ok hsignature), rfl, ?_⟩
  intro s' input' hs' hencoded h'
  have hA := hs'.admitted.represents_of_encoded_eq (s := signer (PrivateKey.ofSeed seed) context)
    (PrivateKey.represents_ofSeed seed) hencoded.symm
  have hverify := hs'.admitted.verify_signPayload_wipe hA h'
    (signer (PrivateKey.ofSeed seed).wipe context) (PrivateKey.ofSeed seed) input.isPrehashed
    input.bytes
  rwa [hsignature] at hverify

/-- The seeds `0` and `1`, wiped, sign a message with the same signature, and it is rejected with the
    public key of the seed `0`. -/
theorem sign_wiped_zero_one :
    ∃ signature,
      (signer (PrivateKey.ofSeed (.zero 32)).wipe []).sign (.message []) = .ok signature ∧
      (signer (PrivateKey.ofSeed (.ofNat 32 1)).wipe []).sign (.message []) = .ok signature ∧
      (signer (.ofSeed (.zero 32)) []).verify (.message []) signature.toOctets.bytes =
        .error (.notAuthentic .equation) := by
  have hcontext : ([] : Bytes).length ≤ 255 := Nat.zero_le _
  have hinput : (Input.message []).WellFormed := trivial
  obtain ⟨r, signature, -, -, hseeds⟩ := sign_wiped hcontext hinput
  obtain ⟨s₀, hs₀, hsign₀, hkey₀, hverify⟩ := hseeds (.zero 32)
  obtain ⟨s₁, hs₁, hsign₁, -⟩ := hseeds (.ofNat 32 1)
  rw [ofKeyNamed_privateKey hcontext] at hs₀ hs₁
  obtain rfl := Except.ok.inj hs₀
  obtain rfl := Except.ok.inj hs₁
  have hkey : (signer (.ofSeed (.zero 32)) []).publicKey.encoded =
      (signer (PrivateKey.ofSeed (.zero 32)).wipe []).publicKey.encoded := by
    rw [hkey₀, signer_publicKey]
  have hrejected := hverify _ _ (reachable_signer hcontext _) hkey hinput
  refine ⟨signature, hsign₀, hsign₁, hrejected.trans (if_neg ?_)⟩
  -- The signature is the one that is computed, so that the challenge can be.
  rw [sign_eq_ok hinput rfl] at hsign₀
  obtain rfl := Except.ok.inj hsign₀
  decide +kernel

end Scheme

end EdwardsSignature
