import EdwardsSignature.Proofs.Key.Public
import EdwardsSignature.Proofs.Scheme.Verification

/-!
# A public key is its encoding

What a scheme verifies, it verifies by the point of its public key and by the encoding, which enters the
challenge. As the encoding determines the point, schemes whose public keys are equal and whose contexts
are the same give one verdict on all there is to verify (`Scheme.Reachable.verify_eq_of_beq`), no matter
what coordinates the points have, and whether or not there is something to sign with.

So a public key can be stored and sent as its encoding: nothing else is ever decoded, and the key that is
decoded is as good as the one that was encoded (`PublicKey.identified_by_encoding`).
-/

namespace EdwardsSignature

/-- Equal public keys and the same context make for the same verdicts. -/
theorem Scheme.Reachable.verify_eq_of_beq {s s' : Scheme} (hs : s.Reachable) (hs' : s'.Reachable)
    (hkey : (s.publicKey == s'.publicKey) = true) (hcontext : s.context = s'.context)
    (input : Input) (signature : Bytes) : s.verify input signature = s'.verify input signature := by
  obtain ⟨A, hA⟩ := hs.admitted.represents
  have hA' := hs'.admitted.represents_of_encoded_eq hA (PublicKey.beq_iff.1 hkey)
  rw [hs.admitted.verify_eq hA, hs'.admitted.verify_eq hA', hcontext]

namespace PublicKey

/-- Decoding fails for other lengths than 32, then for what is not the encoding of a point, and otherwise
    gives a key that is encoded by what was decoded. The public key of a seed is decoded from its
    encoding. Keys are equal, of all there can be, just if they are keys of one point of the curve, and
    schemes that have equal keys and the same context give the same verdict on every byte string as a
    signature of any input. -/
theorem identified_by_encoding :
    (∀ bytes,
      (decode bytes = .error (.wrongLength "Ed25519 public key" 32 bytes.length) ↔
        bytes.length ≠ 32) ∧
      (decode bytes = .error (.notAPoint "Ed25519 public key") ↔
        bytes.length = 32 ∧ ¬Standard.IsEncoding bytes) ∧
      ((∃ A, decode bytes = .ok A ∧ A.encoded.bytes = bytes) ↔ Standard.IsEncoding bytes)) ∧
    (∀ seed, ∃ A, decode (PrivateKey.ofSeed seed).publicKey.encoded.bytes = .ok A ∧
      (A == (PrivateKey.ofSeed seed).publicKey) = true) ∧
    (∀ A B : PublicKey, A.Reachable → B.Reachable →
      ((A == B) = true ↔ A.point.affine = B.point.affine)) ∧
    ∀ s s' : Scheme, s.Reachable → s'.Reachable → (s.publicKey == s'.publicKey) = true →
      s.context = s'.context → ∀ input signature,
        s.verify input signature = s'.verify input signature := by
  refine ⟨fun bytes => ?_, fun seed => ?_, fun A B hA hB => hA.beq_iff hB,
    fun s s' hs hs' => hs.verify_eq_of_beq hs'⟩
  · rcases decode_cases bytes with
      ⟨hlen, hdecode⟩ | ⟨hlen, hpoint, hdecode⟩ | ⟨P, rfl, hdecode⟩
    · have hpoint : ¬Standard.IsEncoding bytes := by
        rintro ⟨code, x, y, rfl, -⟩
        exact hlen code.length_bytes
      simp [hdecode, hlen, hpoint]
    · simp [hdecode, hlen, hpoint]
    · have hpoint := Standard.isEncoding_iff.2 ⟨P, rfl⟩
      simp [hdecode, hpoint, ofCurvePoint]
  · have hA := PrivateKey.represents_ofSeed seed
    exact ⟨_, hA.decode_encoded, beq_iff.2 hA.encoded_eq.symm⟩

/-- The public key of the seed of zeros, and the same decoded: the points are in different coordinates, and
    yet the keys are equal, and a scheme with the one and a private key to sign with verifies like a
    scheme that has just the other. -/
theorem identified_by_encoding_zero :
    (PrivateKey.ofSeed (.zero 32)).publicKey.point ≠
      (ofCurvePoint (Standard.publicPoint (.zero 32))).point ∧
    (PrivateKey.ofSeed (.zero 32)).publicKey.point.affine =
      (ofCurvePoint (Standard.publicPoint (.zero 32))).point.affine ∧
    ∀ input signature,
      (Scheme.signer (.ofSeed (.zero 32)) [1, 2, 3]).verify input signature =
        (Scheme.verifier (ofCurvePoint (Standard.publicPoint (.zero 32))) [1, 2, 3]).verify input
          signature := by
  obtain ⟨-, -, hequal, hverify⟩ := identified_by_encoding
  have hcontext : ([1, 2, 3] : Bytes).length ≤ 255 := by decide
  have hA : (PrivateKey.ofSeed (.zero 32)).publicKey.Reachable := .ofPrivateKey (.ofSeed _)
  have hB := reachable_ofCurvePoint (Standard.publicPoint (.zero 32))
  have hbeq := beq_iff.2 ((PrivateKey.represents_ofSeed (.zero 32)).encoded_eq.trans
    (represents_ofCurvePoint _).encoded_eq.symm)
  refine ⟨?_, (hequal _ _ hA hB).1 hbeq, hverify _ _ (Scheme.reachable_signer hcontext _)
    (Scheme.reachable_verifier hcontext _) hbeq rfl⟩
  -- Decoding gives coordinates with `Z = 1`, and multiplying does not.
  have hZ : (PrivateKey.ofSeed (.zero 32)).publicKey.point.Z ≠ 1 := by decide +kernel
  exact fun h => hZ (congrArg Point.Z h)

end PublicKey

end EdwardsSignature
