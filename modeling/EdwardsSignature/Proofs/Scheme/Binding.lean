import EdwardsSignature.Proofs.Key.Secret
import EdwardsSignature.Proofs.Scheme.Completeness
import EdwardsSignature.Proofs.Scheme.Separation
import EdwardsSignature.Proofs.Verdict

/-!
# What an accepted signature is bound to

An accepted signature is bound to its input and its context by the challenge alone: it is accepted for
another input, or in another context, if the challenge is the same scalar, and otherwise fails for the
equation (`Scheme.Reachable.verify_other_input`). As no two inputs and contexts are hashed alike, the
challenges for two of them are the same only if different digests are, once reduced
(`Scheme.ReducedCollision`). This is so with the public keys that are not of small order. One of small
order binds nothing: what is accepted for one input is accepted for all, and something is
(`Scheme.Admitted.verify_zero`).

A commitment that is made is bound to its input and its context by the nonce in the same way
(`Scheme.Reachable.eq_or_reducedCollision_of_commitment_eq`).

With every public key, an accepted signature is bound to its response: no other 32 bytes go with its
commitment (`Scheme.Reachable.verify_other_response`).
-/

namespace EdwardsSignature.Scheme

variable {s s' : Scheme} {input input' : Input}

/-! ## Inputs and contexts -/

/-- Two byte strings whose digests, reduced, are the same scalar. -/
def ReducedCollision (bs bs' : Bytes) : Prop :=
  bs ≠ bs' ∧ Scalar.ofWide (Sha512.digest bs) = Scalar.ofWide (Sha512.digest bs')

/-- The same challenge for two inputs, or in two contexts, is a collision. -/
theorem Admitted.reducedCollision (hs : s.Admitted) (hs' : s'.Admitted) {R : Octets 32}
    (hR : Point.decode? R ≠ none) (hne : (s.context, input) ≠ (s'.context, input'))
    (h : s.challenge input.isPrehashed R input.bytes =
      s'.challenge input'.isPrehashed R input'.bytes) :
    ReducedCollision (s.challengeInput input.isPrehashed R input.bytes)
      (s'.challengeInput input'.isPrehashed R input'.bytes) := by
  refine ⟨fun hhashed => hne ?_, h⟩
  obtain ⟨hinput, hcontext, -⟩ := hs.eq_of_challengeInput_eq hs' hR hR hhashed
  rw [hcontext, hinput]

/-- What one scheme has accepted is accepted by another one if the challenges are the same, or do not
    matter: the commitment and the response have been read before. -/
theorem Admitted.verify_of_verify_eq_ok (hs : s.Admitted) (hs' : s'.Admitted) {A : CurvePoint}
    (hA : s.publicKey.Represents A) (hA' : s'.publicKey.Represents A) {signature : Signature}
    (hok : s.verify input signature.toOctets.bytes = .ok ()) (h' : input'.WellFormed) :
    s'.verify input' signature.toOctets.bytes =
      if 8 • A = 0 ∨ s.challenge input.isPrehashed signature.commitment input.bytes =
        s'.challenge input'.isPrehashed signature.commitment input'.bytes then .ok ()
      else .error (.notAuthentic .equation) := by
  rw [hs.verify_eq hA, Standard.verdict_eq_ok_iff] at hok
  obtain ⟨-, hlt, R, hR, hbalances⟩ := hok
  rw [hs'.verify_eq hA', Standard.verdict_of_encode_eq h' hR, if_neg (not_le.2 hlt)]
  refine if_congr ?_ rfl rfl
  rw [hs.challenge_eq, hs'.challenge_eq, hA.encoded_eq, hA'.encoded_eq, ← hR]
  exact hbalances.other_input_iff

/-- With a public key of small order, the identity and the response `0` are a signature of everything. -/
theorem Admitted.verify_zero (hs : s.Admitted) {A : CurvePoint} (hA : s.publicKey.Represents A)
    (hsmall : 8 • A = 0) (h : input.WellFormed) :
    s.verify input (Signature.toOctets ⟨CurvePoint.encode 0, .zero 32⟩).bytes = .ok () := by
  have hzero : (Octets.zero 32).toNat = 0 := Bytes.toNat_replicate_zero 32
  have hbalances : Standard.Balances A s.context input 0 0 := by
    rw [Standard.balances_iff, hsmall, zero_nsmul, nsmul_zero, nsmul_zero, add_zero]
  rw [hs.verify_eq hA, Standard.verdict_eq_ok_iff, hzero]
  exact ⟨h, Modulus.pos, 0, rfl, hbalances⟩

/-- A signature that one scheme has accepted, given to any other one with the same public key, for any
    input and in any context: it is accepted if the public key is of small order, or the challenges
    are the same scalar, and otherwise fails for the equation. With a public key that is not of small
    order, its being accepted for two inputs, or in two contexts, is a collision. -/
theorem Reachable.verify_other_input (hs : s.Reachable) (hs' : s'.Reachable)
    (hkey : s.publicKey.encoded = s'.publicKey.encoded) {signature : Signature}
    (hok : s.verify input signature.toOctets.bytes = .ok ()) (h' : input'.WellFormed) :
    ∃ A, s.publicKey.Represents A ∧ s'.publicKey.Represents A ∧
      (s'.verify input' signature.toOctets.bytes =
        if 8 • A = 0 ∨ s.challenge input.isPrehashed signature.commitment input.bytes =
          s'.challenge input'.isPrehashed signature.commitment input'.bytes then .ok ()
        else .error (.notAuthentic .equation)) ∧
      (8 • A ≠ 0 → (s.context, input) ≠ (s'.context, input') →
        s'.verify input' signature.toOctets.bytes = .ok () →
          ReducedCollision
            (s.challengeInput input.isPrehashed signature.commitment input.bytes)
            (s'.challengeInput input'.isPrehashed signature.commitment input'.bytes)) := by
  obtain ⟨A, hA⟩ := hs.admitted.represents
  have hA' := hs'.admitted.represents_of_encoded_eq hA hkey
  have hverify := hs.admitted.verify_of_verify_eq_ok hs'.admitted hA hA' hok h'
  refine ⟨A, hA, hA', hverify, ?_⟩
  intro hsmall hne hok'
  rw [hverify] at hok'
  split_ifs at hok' with hsame
  exact hs.admitted.reducedCollision hs'.admitted
    (hs.admitted.decode?_commitment_of_verify (.inl hok)) hne (hsame.resolve_left hsmall)

/-- With a public key of order `8`, zeros are a signature of everything. With the public key of the seed
    of zeros, the signature of a message fails for the equation when one bit of the message changes. -/
theorem verify_other_input_octant :
    (verifier (.ofCurvePoint .octant) [1, 2, 3]).verify (.message [4, 5])
      (Signature.toOctets ⟨CurvePoint.encode 0, .zero 32⟩).bytes = .ok () ∧
    (Input.prehashed (List.replicate 64 0)).WellFormed ∧
    (verifier (.ofCurvePoint .octant) []).verify (.prehashed (List.replicate 64 0))
      (Signature.toOctets ⟨CurvePoint.encode 0, .zero 32⟩).bytes = .ok () ∧
    ∃ signature,
      (signer (.ofSeed (.zero 32)) [1, 2, 3]).sign (.message [4, 5]) = .ok signature ∧
      (signer (.ofSeed (.zero 32)) [1, 2, 3]).verify (.message [4, 5]) signature.toOctets.bytes =
        .ok () ∧
      (signer (.ofSeed (.zero 32)) [1, 2, 3]).verify (.message [4, 4]) signature.toOctets.bytes =
        .error (.notAuthentic .equation) := by
  have hs : (verifier (.ofCurvePoint .octant) [1, 2, 3]).Reachable :=
    reachable_verifier (by decide) _
  have hs' : (verifier (.ofCurvePoint .octant) []).Reachable := reachable_verifier (by decide) _
  have hA := PublicKey.represents_ofCurvePoint .octant
  have hmessage : (Input.message [4, 5]).WellFormed := trivial
  have hok := hs.admitted.verify_zero hA CurvePoint.eight_nsmul_octant hmessage
  have hinput : (Input.prehashed (List.replicate 64 0)).WellFormed := by decide
  obtain ⟨A, hA', -, hverify, -⟩ := Reachable.verify_other_input hs hs' rfl hok hinput
  obtain rfl := hA.point.unique hA'.point
  refine ⟨hok, hinput, hverify.trans (if_pos (.inl CurvePoint.eight_nsmul_octant)), ?_⟩
  have hsigner : (signer (.ofSeed (.zero 32)) [1, 2, 3]).Reachable := reachable_signer (by decide) _
  have hseed := PrivateKey.represents_ofSeed (.zero 32)
  have hmessage' : (Input.message [4, 4]).WellFormed := trivial
  obtain ⟨signature, hsignature⟩ : ∃ signature, signature =
    (signer (.ofSeed (.zero 32)) [1, 2, 3]).signPayload (.ofSeed (.zero 32)) false [4, 5] := ⟨_, rfl⟩
  have hsign : (signer (.ofSeed (.zero 32)) [1, 2, 3]).sign (.message [4, 5]) = .ok signature :=
    hsignature ▸ sign_eq_ok hmessage rfl
  have hsigned : (signer (.ofSeed (.zero 32)) [1, 2, 3]).verify (.message [4, 5])
      signature.toOctets.bytes = .ok () :=
    hsignature ▸ hsigner.admitted.verify_signPayload_ofSeed hsigner.admitted hseed hseed rfl hmessage
  obtain ⟨A, hA', -, hverify', -⟩ :=
    Reachable.verify_other_input hsigner hsigner rfl hsigned hmessage'
  -- The key of a seed is not of small order, so that the challenges decide.
  have hsmall : 8 • A ≠ 0 := by
    rw [hA'.point.unique hseed.point]
    exact Standard.eight_nsmul_publicPoint_ne_zero _
  refine ⟨signature, hsign, hsigned, hverify'.trans (if_neg (not_or.2 ⟨hsmall, ?_⟩))⟩
  rw [hsignature]
  decide +kernel

/-! ## Commitments -/

/-- Signatures that are made with one private key have different commitments for different inputs, and
    in different contexts, unless the nonce key is the tag and one input mimics the other one, or there
    is a collision. -/
theorem Reachable.eq_or_reducedCollision_of_commitment_eq (hs : s.Reachable) (hs' : s'.Reachable)
    {key : PrivateKey} (hkey : s.privateKey = some key) (hkey' : s'.privateKey = some key)
    {signature signature' : Signature} (h : s.sign input = .ok signature)
    (h' : s'.sign input' = .ok signature') (hR : signature.commitment = signature'.commitment) :
    (input = input' ∧ s.context = s'.context) ∨
    (key.nonceKey = tag ∧ (s.Mimics input s' input' ∨ s'.Mimics input' s input)) ∨
    ReducedCollision (s.nonceInput input.isPrehashed key.nonceKey input.bytes)
      (s'.nonceInput input'.isPrehashed key.nonceKey input'.bytes) := by
  by_cases hhashed : s.nonceInput input.isPrehashed key.nonceKey input.bytes =
      s'.nonceInput input'.isPrehashed key.nonceKey input'.bytes
  · rcases hs.admitted.eq_or_mimics_of_nonceInput_eq hs'.admitted hhashed with hsame | hmimics
    · exact .inl hsame
    · exact .inr (.inl hmimics)
  · exact .inr (.inr ⟨hhashed, (commitment_eq_iff_of_sign_eq_ok hkey hkey' h h').1 hR⟩)

/-! ## Responses -/

/-- A signature that is accepted is accepted with no other response: of all other 32 bytes, those that
    stand for a number from `order` on are refused, and the rest does not satisfy the equation. -/
theorem Reachable.verify_other_response (hs : s.Reachable) {R response : Octets 32}
    (hok : s.verify input (R.bytes ++ response.bytes) = .ok ()) (response' : Octets 32) :
    s.verify input (R.bytes ++ response'.bytes) =
      if response' = response then .ok ()
      else .error (.notAuthentic (if order ≤ response'.toNat then .response else .equation)) := by
  by_cases hsame : response' = response
  · rw [if_pos hsame, hsame, hok]
  rw [if_neg hsame]
  obtain ⟨A, hA⟩ := hs.admitted.represents
  change s.verify input (Signature.toOctets ⟨R, response⟩).bytes = .ok () at hok
  change s.verify input (Signature.toOctets ⟨R, response'⟩).bytes = _
  rw [hs.admitted.verify_eq hA, Standard.verdict_eq_ok_iff] at hok
  obtain ⟨h, hlt, P, hP, hbalances⟩ := hok
  have hP' : P.encode = (⟨R, response'⟩ : Signature).commitment := hP
  rw [hs.admitted.verify_eq hA, Standard.verdict_of_encode_eq h hP']
  split_ifs with hle hbalances'
  · rfl
  · -- Both responses are reduced, and the same scalar.
    have hresponse := hbalances'.cast_response_eq hbalances
    exact absurd (Octets.toNat_inj (Scalar.eq_of_cast_eq_cast (not_le.1 hle) hlt hresponse)) hsame
  · rfl

/-- The response of a signature with `order` added to it is refused. -/
theorem verify_other_response_add_order :
    (signer (.ofSeed (.zero 32)) [1, 2, 3]).verify (.message [4, 5])
      ((Standard.commitment (.zero 32) [1, 2, 3] (.message [4, 5])).bytes ++
        (Octets.ofNat 32 (Standard.response (.zero 32) [1, 2, 3] (.message [4, 5])
          (Standard.publicPoint (.zero 32)).encode)).bytes) = .ok () ∧
    (signer (.ofSeed (.zero 32)) [1, 2, 3]).verify (.message [4, 5])
      ((Standard.commitment (.zero 32) [1, 2, 3] (.message [4, 5])).bytes ++
        (Octets.ofNat 32 (Standard.response (.zero 32) [1, 2, 3] (.message [4, 5])
          (Standard.publicPoint (.zero 32)).encode + order)).bytes) =
        .error (.notAuthentic .response) := by
  have hs : (signer (.ofSeed (.zero 32)) [1, 2, 3]).Reachable := reachable_signer (by decide) _
  have hcontext : (signer (.ofSeed (.zero 32)) [1, 2, 3]).context = [1, 2, 3] := rfl
  have hinput : (Input.message [4, 5]).WellFormed := trivial
  have hok := hs.admitted.verify_signature (PrivateKey.represents_ofSeed (.zero 32)) hinput
  rw [Standard.signature, hcontext] at hok
  have hlt := Standard.response_lt (.zero 32) [1, 2, 3] (.message [4, 5])
    (Standard.publicPoint (.zero 32)).encode
  -- What the numbers are does not matter, only that the response is reduced.
  generalize Standard.commitment _ _ _ = R at hok
  generalize Standard.response _ _ _ _ = S at hok hlt
  change Scheme.verify _ _ (R.bytes ++ (Octets.ofNat 32 S).bytes) = .ok () at hok
  have hfits : order + order < 256 ^ 32 := by decide
  have hread : (Octets.ofNat 32 S).toNat = S := Octets.toNat_ofNat_of_lt (by omega)
  have hread' : (Octets.ofNat 32 (S + order)).toNat = S + order :=
    Octets.toNat_ofNat_of_lt (by omega)
  have hne : Octets.ofNat 32 (S + order) ≠ Octets.ofNat 32 S := by
    intro h
    have hval := congrArg Octets.toNat h
    rw [hread, hread'] at hval
    omega
  refine ⟨hok, (Reachable.verify_other_response hs hok _).trans ?_⟩
  rw [if_neg hne, hread', if_pos (Nat.le_add_left order S)]

end EdwardsSignature.Scheme
