import EdwardsSignature.Proofs.Scheme.Signing
import EdwardsSignature.Proofs.Scheme.Verification
import EdwardsSignature.Proofs.Verdict

/-!
# What is signed is accepted

In the standard, a signature satisfies the equation of verification, as its response is an identity of
integers up to a multiple of `order`, and base points count such multiples for nothing
(`Standard.balances_response`). So the verdict on it is positive (`Standard.verdict_signature`).

Schemes sign and verify by the standard, and what one scheme signs with the key pair of a seed is
accepted by it, and by a scheme that has but the decoded public key (`Scheme.sign_then_verify`).
-/

namespace EdwardsSignature

namespace Standard

variable (seed : Octets 32) (context : Bytes) (input : Input)

/-- The response satisfies the equation. -/
theorem balances_response :
    Balances (publicPoint seed) context input (nonce seed context input • CurvePoint.base)
      (response seed context input (publicPoint seed).encode) := by
  -- The base point counts multiples of `order` for nothing, so the response need not be reduced.
  have hreduced := CurvePoint.nsmul_mod_order CurvePoint.order_nsmul_base
    (nonce seed context input + challenge context input (commitment seed context input)
      (publicPoint seed).encode * secret seed)
  rw [Balances, mul_nsmul', response, hreduced, add_nsmul, nsmul_add, mul_nsmul' _ 8, mul_nsmul']
  rfl

/-- The response is a reduced scalar. -/
theorem response_lt (publicKey : Octets 32) : response seed context input publicKey < order :=
  Nat.mod_lt _ Modulus.pos

/-- The verdict on the signature of a well-formed input is positive. -/
theorem verdict_signature {input : Input} (h : input.WellFormed) :
    verdict (publicPoint seed) context input (signature seed context input) = .ok () := by
  have hlt := response_lt seed context input (publicPoint seed).encode
  have hbalances := balances_response seed context input
  rw [signature]
  generalize response seed context input (publicPoint seed).encode = S at hlt hbalances
  have hread : (Octets.ofNat 32 S).toNat = S := Octets.toNat_ofNat_of_lt (hlt.trans (by decide))
  change verdict _ context input
    (Signature.toOctets ⟨commitment seed context input, .ofNat 32 S⟩).bytes = .ok ()
  rw [verdict_eq_ok_iff, hread]
  exact ⟨h, hlt, _, rfl, hbalances⟩

end Standard

namespace Scheme

/-- A scheme that has the public key of a seed accepts the signatures of the standard. -/
theorem Admitted.verify_signature {s : Scheme} (hs : s.Admitted) {seed : Octets 32}
    (hA : s.publicKey.Represents (Standard.publicPoint seed)) {input : Input}
    (h : input.WellFormed) :
    s.verify input (Standard.signature seed s.context input) = .ok () := by
  rw [hs.verify_eq hA, Standard.verdict_signature seed s.context h]

/-- What is signed with the key pair of a seed is accepted by every scheme with the same public key and
    context. -/
theorem Admitted.verify_signPayload_ofSeed {s s' : Scheme} (hs : s.Admitted) (hs' : s'.Admitted)
    {seed : Octets 32} (hA : s.publicKey.Represents (Standard.publicPoint seed))
    (hA' : s'.publicKey.Represents (Standard.publicPoint seed)) (hcontext : s'.context = s.context)
    {input : Input} (h : input.WellFormed) :
    s'.verify input
      (s.signPayload (.ofSeed seed) input.isPrehashed input.bytes).toOctets.bytes = .ok () := by
  have hencoded := hA.encoded_eq.trans (PrivateKey.represents_ofSeed seed).encoded_eq.symm
  rw [hs.toOctets_signPayload input hencoded, ← hcontext]
  exact hs'.verify_signature hA' h

/-- What is signed with the key of a seed is accepted: by the scheme that signs, and by one that is
    made of the encoded public key. Nothing on the way there can fail. -/
theorem sign_then_verify (seed : Octets 32) {context : Bytes} (hcontext : context.length ≤ 255)
    {input : Input} (h : input.WellFormed) :
    ∃ key signer signature publicKey verifier,
      PrivateKey.decode seed.bytes = .ok key ∧
      ofKeyNamed key.toKey "rfc8032" context = .ok signer ∧
      signer.sign input = .ok signature ∧
      signer.verify input signature.toOctets.bytes = .ok () ∧
      PublicKey.decode key.publicKey.encoded.bytes = .ok publicKey ∧
      ofKeyNamed publicKey.toKey "rfc8032" context = .ok verifier ∧
      verifier.verify input signature.toOctets.bytes = .ok () := by
  have hA := PrivateKey.represents_ofSeed seed
  have hdecoded := PublicKey.represents_ofCurvePoint (Standard.publicPoint seed)
  have hdecode : PublicKey.decode (PrivateKey.ofSeed seed).publicKey.encoded.bytes =
      .ok (.ofCurvePoint (Standard.publicPoint seed)) := by
    rw [hA.encoded_eq, PublicKey.decode_encode]
  have hsigner := (reachable_signer hcontext seed).admitted
  have hverifier := (reachable_verifier hcontext (Standard.publicPoint seed)).admitted
  exact ⟨_, _, _, _, _, PrivateKey.decode_eq_ok seed, ofKeyNamed_privateKey hcontext _,
    sign_eq_ok h rfl, hsigner.verify_signPayload_ofSeed hsigner hA hA rfl h, hdecode,
    ofKeyNamed_publicKey hcontext _, hsigner.verify_signPayload_ofSeed hverifier hA hdecoded rfl h⟩

/-- The case of the seed of zeros, in a context, with a digest of zeros. -/
theorem sign_then_verify_zero :
    ([1, 2, 3] : Bytes).length ≤ 255 ∧ (Input.prehashed (List.replicate 64 0)).WellFormed ∧
    ∃ key signer signature publicKey verifier,
      PrivateKey.decode (Octets.zero 32).bytes = .ok key ∧
      ofKeyNamed key.toKey "rfc8032" [1, 2, 3] = .ok signer ∧
      signer.sign (.prehashed (List.replicate 64 0)) = .ok signature ∧
      signer.verify (.prehashed (List.replicate 64 0)) signature.toOctets.bytes = .ok () ∧
      PublicKey.decode key.publicKey.encoded.bytes = .ok publicKey ∧
      ofKeyNamed publicKey.toKey "rfc8032" [1, 2, 3] = .ok verifier ∧
      verifier.verify (.prehashed (List.replicate 64 0)) signature.toOctets.bytes = .ok () := by
  have hcontext : ([1, 2, 3] : Bytes).length ≤ 255 := by decide
  have h : (Input.prehashed (List.replicate 64 0)).WellFormed := by decide
  exact ⟨hcontext, h, sign_then_verify (.zero 32) hcontext h⟩

end Scheme

end EdwardsSignature
