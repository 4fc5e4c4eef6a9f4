import EdwardsSignature.Proofs.Scheme.Signing
import EdwardsSignature.Proofs.Scheme.Verification

/-!
# The flavours are kept apart

What is hashed into a challenge determines all that went into it: the flavour, the context, the
commitment, the public key and the payload (`Scheme.Reachable.challengeInput_inj`). This is so for the
challenges that are computed in signing and verifying (`Scheme.Reachable.challengeInput_eq_iff`). What is
hashed into a nonce determines the flavour, the context and the payload, with one exception
(`Scheme.Reachable.nonceInput_eq_iff`), and the commitment of a signature is made of its digest
(`Scheme.commitment_of_sign_eq_ok`).

Outside of the plain flavour, the domain can be read off the front: the tag has a fixed size, and the
context comes after its length, which fits into a byte. In the plain flavour there is no domain, and
32 octets of another kind are in the place of the tag. Only if these *are* the tag can flavours be
taken for one another (`Scheme.Admitted.domain_append_inj`). Commitments never are, as the tag is not
the encoding of a point (`Scheme.decode?_tag`). A nonce key may be, and then a message in the plain
flavour can be made up to be hashed like any input in another flavour (`Scheme.Mimics`).
-/

namespace EdwardsSignature

/-- Octets of a known number can be read off the front. -/
theorem Octets.append_inj {n : ℕ} {a b : Octets n} {as bs : Bytes}
    (h : a.bytes ++ as = b.bytes ++ bs) : a = b ∧ as = bs := by
  obtain ⟨hbytes, hrest⟩ := List.append_inj h (a.length_bytes.trans b.length_bytes.symm)
  exact ⟨Octets.ext_bytes hbytes, hrest⟩

/-- An input is given by its kind and its bytes. -/
theorem Input.eq_of_bytes_eq {input input' : Input} (hkind : input.isPrehashed = input'.isPrehashed)
    (hbytes : input.bytes = input'.bytes) : input = input' := by
  cases input <;> cases input' <;> first | exact congrArg _ hbytes | cases hkind

namespace Scheme

variable {s s' : Scheme} {prehashed prehashed' : Bool} {input input' : Input}
  {signature signature' : Signature}

/-! ## Domains -/

/-- The tag of the curve, as octets. -/
def tag : Octets 32 := ⟨Parameters.ed25519Tag, rfl⟩

/-- The tag is not the encoding of a point: there is no `x` for what would be its `y`. -/
theorem decode?_tag : Point.decode? tag = none := by decide +kernel

/-- In the plain flavour, a message is signed in the empty context. -/
def IsPlain (s : Scheme) (prehashed : Bool) : Prop := prehashed = false ∧ s.context = []

theorem domain_of_isPlain (h : s.IsPlain prehashed) : s.domain prehashed = [] := by
  obtain ⟨rfl, hcontext⟩ := h
  rw [domain, hcontext]
  rfl

/-- What follows the tag in a domain: a byte for the kind of the input, and the context after a byte
    for its length. -/
def details (s : Scheme) (prehashed : Bool) : Bytes :=
  (if prehashed then 1 else 0) :: UInt8.ofNat s.context.length :: s.context

theorem Admitted.domain_of_not_isPlain (hs : s.Admitted) (h : ¬s.IsPlain prehashed) :
    s.domain prehashed = tag.bytes ++ s.details prehashed := by
  have hflavour : ¬((!prehashed && s.context.isEmpty) = true) := by
    rw [Bool.and_eq_true, Bool.not_eq_true', List.isEmpty_iff]
    exact h
  rw [domain, if_neg hflavour, hs.curve_eq]
  rfl

/-- The length of a context that is short enough can be read off its byte. -/
theorem length_eq_of_ofNat_eq {bs bs' : Bytes} (hle : bs.length ≤ 255) (hle' : bs'.length ≤ 255)
    (h : UInt8.ofNat bs.length = UInt8.ofNat bs'.length) : bs.length = bs'.length := by
  have hval := congrArg UInt8.toNat h
  rw [UInt8.toNat_ofNat', UInt8.toNat_ofNat'] at hval
  omega

/-- Behind the tag, the kind of the input and the context can be read off the front. -/
theorem Admitted.domain_append_inj_of_not_isPlain (hs : s.Admitted) (hs' : s'.Admitted)
    (hplain : ¬s.IsPlain prehashed) (hplain' : ¬s'.IsPlain prehashed') {rest rest' : Bytes}
    (h : s.domain prehashed ++ rest = s'.domain prehashed' ++ rest') :
    prehashed = prehashed' ∧ s.context = s'.context ∧ rest = rest' := by
  rw [hs.domain_of_not_isPlain hplain, hs'.domain_of_not_isPlain hplain', List.append_assoc,
    List.append_assoc, details, details] at h
  -- The tag, the byte for the kind and the byte for the length come off, one after the other.
  obtain ⟨-, h⟩ := Octets.append_inj h
  obtain ⟨hflag, h⟩ := List.cons.inj h
  obtain ⟨hsize, h⟩ := List.cons.inj h
  obtain ⟨hcontext, hrest⟩ := List.append_inj h
    (length_eq_of_ofNat_eq hs.context_length_le hs'.context_length_le hsize)
  have hprehashed : prehashed = prehashed' := by
    cases prehashed <;> cases prehashed' <;> first | rfl | exact absurd hflag (by decide)
  exact ⟨hprehashed, hcontext, hrest⟩

/-- What has a domain and 32 octets at its front determines both, unless the octets are the tag, and
    just the flavour that they are in is plain. -/
theorem Admitted.domain_append_inj (hs : s.Admitted) (hs' : s'.Admitted) {o o' : Octets 32}
    {rest rest' : Bytes}
    (h : s.domain prehashed ++ o.bytes ++ rest = s'.domain prehashed' ++ o'.bytes ++ rest') :
    (prehashed = prehashed' ∧ s.context = s'.context ∧ o = o' ∧ rest = rest') ∨
    (o = tag ∧ s.IsPlain prehashed ∧ ¬s'.IsPlain prehashed') ∨
    (o' = tag ∧ ¬s.IsPlain prehashed ∧ s'.IsPlain prehashed') := by
  rw [List.append_assoc, List.append_assoc] at h
  by_cases hplain : s.IsPlain prehashed
  · by_cases hplain' : s'.IsPlain prehashed'
    · rw [domain_of_isPlain hplain, domain_of_isPlain hplain'] at h
      obtain ⟨ho, hrest⟩ := Octets.append_inj h
      exact .inl ⟨hplain.1.trans hplain'.1.symm, hplain.2.trans hplain'.2.symm, ho, hrest⟩
    · -- On the left, the octets are where the tag is on the right.
      rw [domain_of_isPlain hplain, hs'.domain_of_not_isPlain hplain', List.append_assoc] at h
      exact .inr (.inl ⟨(Octets.append_inj h).1, hplain, hplain'⟩)
  · by_cases hplain' : s'.IsPlain prehashed'
    · rw [hs.domain_of_not_isPlain hplain, domain_of_isPlain hplain', List.append_assoc] at h
      exact .inr (.inr ⟨(Octets.append_inj h).1.symm, hplain, hplain'⟩)
    · obtain ⟨hprehashed, hcontext, h⟩ := hs.domain_append_inj_of_not_isPlain hs' hplain hplain' h
      obtain ⟨ho, hrest⟩ := Octets.append_inj h
      exact .inl ⟨hprehashed, hcontext, ho, hrest⟩

/-! ## Nonces -/

/-- The commitment in a signature that is made is the multiple of the base point by the nonce: the
    digest, reduced, of what is hashed into it. -/
theorem commitment_of_sign_eq_ok {key : PrivateKey} (hkey : s.privateKey = some key)
    (h : s.sign input = .ok signature) :
    signature.commitment = ((Scalar.ofWide (Sha512.digest
      (s.nonceInput input.isPrehashed key.nonceKey input.bytes))).val • CurvePoint.base).encode := by
  obtain ⟨key', hkey', rfl⟩ := eq_of_sign_eq_ok h
  obtain rfl := Option.some_inj.1 (hkey.symm.trans hkey')
  exact commitment_signPayload s key _ _

/-- Signatures that are made with one private key have the same commitment just if the digests of what
    is hashed into their nonces are the same, once reduced. -/
theorem commitment_eq_iff_of_sign_eq_ok {key : PrivateKey} (hkey : s.privateKey = some key)
    (hkey' : s'.privateKey = some key) (h : s.sign input = .ok signature)
    (h' : s'.sign input' = .ok signature') :
    signature.commitment = signature'.commitment ↔
      Scalar.ofWide (Sha512.digest (s.nonceInput input.isPrehashed key.nonceKey input.bytes)) =
        Scalar.ofWide
          (Sha512.digest (s'.nonceInput input'.isPrehashed key.nonceKey input'.bytes)) := by
  rw [commitment_of_sign_eq_ok hkey h, commitment_of_sign_eq_ok hkey' h',
    CurvePoint.encode_injective.eq_iff, Scalar.val_nsmul_base_eq_iff]

/-- The first input is in the plain flavour, and its bytes are those that follow the tag where the
    second one, in another flavour, is hashed with the tag for a nonce key. -/
def Mimics (s : Scheme) (input : Input) (s' : Scheme) (input' : Input) : Prop :=
  s.IsPlain input.isPrehashed ∧ ¬s'.IsPlain input'.isPrehashed ∧
    input.bytes = s'.details input'.isPrehashed ++ tag.bytes ++ input'.bytes

theorem Admitted.nonceInput_tag_eq_iff (hs' : s'.Admitted)
    (hplain : s.IsPlain input.isPrehashed) (hplain' : ¬s'.IsPlain input'.isPrehashed) :
    s.nonceInput input.isPrehashed tag input.bytes =
        s'.nonceInput input'.isPrehashed tag input'.bytes ↔
      input.bytes = s'.details input'.isPrehashed ++ tag.bytes ++ input'.bytes := by
  rw [nonceInput, nonceInput, domain_of_isPlain hplain, hs'.domain_of_not_isPlain hplain',
    List.nil_append, List.append_assoc, List.append_assoc, List.append_cancel_left_eq,
    List.append_assoc]

/-- What is hashed into a nonce is hashed into no other one with the same nonce key, but for inputs that
    mimic one another. -/
theorem Admitted.eq_or_mimics_of_nonceInput_eq (hs : s.Admitted) (hs' : s'.Admitted)
    {nonceKey : Octets 32}
    (h : s.nonceInput input.isPrehashed nonceKey input.bytes =
      s'.nonceInput input'.isPrehashed nonceKey input'.bytes) :
    (input = input' ∧ s.context = s'.context) ∨
      (nonceKey = tag ∧ (s.Mimics input s' input' ∨ s'.Mimics input' s input)) := by
  rcases hs.domain_append_inj hs' h with
    ⟨hkind, hcontext, -, hbytes⟩ | ⟨rfl, hplain, hplain'⟩ | ⟨rfl, hplain, hplain'⟩
  · exact .inl ⟨Input.eq_of_bytes_eq hkind hbytes, hcontext⟩
  · rw [hs'.nonceInput_tag_eq_iff hplain hplain'] at h
    exact .inr ⟨rfl, .inl ⟨hplain, hplain', h⟩⟩
  · rw [eq_comm, hs.nonceInput_tag_eq_iff hplain' hplain] at h
    exact .inr ⟨rfl, .inr ⟨hplain', hplain, h⟩⟩

/-- With one private key, what is hashed into the nonces of two signatures, in whatever schemes, is
    the same for the same input in the same context, and otherwise only if the nonce key happens to be
    the tag, and just one of the two inputs is in the plain flavour, and mimics the other one. -/
theorem Reachable.nonceInput_eq_iff (hs : s.Reachable) (hs' : s'.Reachable) (key : PrivateKey)
    (input input' : Input) :
    s.nonceInput input.isPrehashed key.nonceKey input.bytes =
        s'.nonceInput input'.isPrehashed key.nonceKey input'.bytes ↔
      (input = input' ∧ s.context = s'.context) ∨
      (key.nonceKey = tag ∧ (s.Mimics input s' input' ∨ s'.Mimics input' s input)) := by
  constructor
  · exact hs.admitted.eq_or_mimics_of_nonceInput_eq hs'.admitted
  · rintro (⟨rfl, hcontext⟩ | ⟨hkey, ⟨hplain, hplain', h⟩ | ⟨hplain', hplain, h⟩⟩)
    · rw [nonceInput, nonceInput, hs.admitted.domain_eq, hs'.admitted.domain_eq, hcontext]
    · rw [hkey, hs'.admitted.nonceInput_tag_eq_iff hplain hplain', h]
    · rw [hkey, eq_comm, hs.admitted.nonceInput_tag_eq_iff hplain' hplain, h]

/-- The case of the tag for a nonce key: a message in the plain flavour mimics one in a context. -/
theorem nonceInput_eq_iff_tag :
    (signer (.ofSeed (.zero 32)) []).Reachable ∧ (signer (.ofSeed (.zero 32)) [7]).Reachable ∧
    (signer (.ofSeed (.zero 32)) []).nonceInput false tag ([0, 1, 7] ++ tag.bytes ++ [4, 5]) =
      (signer (.ofSeed (.zero 32)) [7]).nonceInput false tag [4, 5] := by
  have hs : (signer (.ofSeed (.zero 32)) []).Reachable := reachable_signer (by decide) _
  have hs' : (signer (.ofSeed (.zero 32)) [7]).Reachable := reachable_signer (by decide) _
  have hplain : ¬(signer (.ofSeed (.zero 32)) [7]).IsPlain false := fun h => List.cons_ne_nil _ _ h.2
  have hmimics : (signer (.ofSeed (.zero 32)) []).Mimics (.message ([0, 1, 7] ++ tag.bytes ++ [4, 5]))
      (signer (.ofSeed (.zero 32)) [7]) (.message [4, 5]) := ⟨⟨rfl, rfl⟩, hplain, rfl⟩
  exact ⟨hs, hs', (Reachable.nonceInput_eq_iff hs hs' ⟨.zero 32, 0, tag, .ofCurvePoint .base⟩ _ _).2
    (.inr ⟨rfl, .inl hmimics⟩)⟩

/-! ## Challenges -/

/-- The commitment in a signature that is made is the encoding of a point. -/
theorem decode?_commitment_of_sign_eq_ok (h : s.sign input = .ok signature) :
    Point.decode? signature.commitment ≠ none := by
  obtain ⟨key, hkey, -⟩ := eq_of_sign_eq_ok h
  rw [commitment_of_sign_eq_ok hkey h]
  exact Point.decode?_encode_ne_none _

/-- The commitment in a signature that is verified is the encoding of a point, unless it is
    rejected for that. -/
theorem decode?_commitment_of_verifyPayload_ne {payload : Bytes}
    (h : s.verifyPayload prehashed payload signature ≠ .error (.notAuthentic .commitment)) :
    Point.decode? signature.commitment ≠ none := by
  intro hnone
  exact h (verifyPayload_of_not_encoding (Point.decode?_eq_none_iff.1 hnone))

/-- A commitment is read before the equation is looked at. -/
theorem Admitted.decode?_commitment_of_verify (hs : s.Admitted)
    (h : s.verify input signature.toOctets.bytes = .ok () ∨
      s.verify input signature.toOctets.bytes = .error (.notAuthentic .equation)) :
    Point.decode? signature.commitment ≠ none := by
  by_cases hinput : input.WellFormed
  · rw [verify_of_wellFormed hs.signatureSize_eq hinput, Signature.ofOctets_toOctets] at h
    have hread : s.verifyPayload input.isPrehashed input.bytes signature ≠
        .error (.notAuthentic .commitment) := by
      rcases h with h | h <;> simp [h]
    exact decode?_commitment_of_verifyPayload_ne hread
  · rw [verify_of_not_wellFormed hs.signatureSize_eq hinput] at h
    simp at h

/-- A challenge is computed for a commitment when a signature with it is made, and when one is verified
    up to the equation. -/
inductive Challenges (s : Scheme) (input : Input) : Octets 32 → Prop
  | sign {signature : Signature} :
    s.sign input = .ok signature → s.Challenges input signature.commitment
  | verify {signature : Signature} :
    s.verify input signature.toOctets.bytes = .ok () ∨
      s.verify input signature.toOctets.bytes = .error (.notAuthentic .equation) →
    s.Challenges input signature.commitment

theorem Admitted.decode?_of_challenges (hs : s.Admitted) {R : Octets 32}
    (h : s.Challenges input R) : Point.decode? R ≠ none := by
  cases h with
  | sign h => exact decode?_commitment_of_sign_eq_ok h
  | verify h => exact hs.decode?_commitment_of_verify h

theorem Admitted.eq_of_challengeInput_eq (hs : s.Admitted) (hs' : s'.Admitted) {R R' : Octets 32}
    (hR : Point.decode? R ≠ none) (hR' : Point.decode? R' ≠ none)
    (h : s.challengeInput input.isPrehashed R input.bytes =
      s'.challengeInput input'.isPrehashed R' input'.bytes) :
    input = input' ∧ s.context = s'.context ∧ R = R' ∧
      s.publicKey.encoded = s'.publicKey.encoded := by
  rw [challengeInput, challengeInput, List.append_assoc, List.append_assoc _ _ input'.bytes] at h
  rcases hs.domain_append_inj hs' h with
    ⟨hkind, hcontext, hcommitment, hrest⟩ | ⟨rfl, -⟩ | ⟨rfl, -⟩
  · obtain ⟨hencoded, hbytes⟩ := Octets.append_inj hrest
    exact ⟨Input.eq_of_bytes_eq hkind hbytes, hcontext, hcommitment, hencoded⟩
  · exact absurd decode?_tag hR
  · exact absurd decode?_tag hR'

/-- Whether they sign or verify, what schemes hash into two challenges is the same just for the same
    input, context, commitment and public key. -/
theorem Reachable.challengeInput_eq_iff (hs : s.Reachable) (hs' : s'.Reachable) {R R' : Octets 32}
    (h : s.Challenges input R) (h' : s'.Challenges input' R') :
    s.challengeInput input.isPrehashed R input.bytes =
        s'.challengeInput input'.isPrehashed R' input'.bytes ↔
      input = input' ∧ s.context = s'.context ∧ R = R' ∧
        s.publicKey.encoded = s'.publicKey.encoded := by
  constructor
  · exact hs.admitted.eq_of_challengeInput_eq hs'.admitted (hs.admitted.decode?_of_challenges h)
      (hs'.admitted.decode?_of_challenges h')
  · rintro ⟨rfl, hcontext, rfl, hencoded⟩
    rw [challengeInput, challengeInput, hs.admitted.domain_eq, hs'.admitted.domain_eq, hcontext,
      hencoded]

/-- The signer and the verifier of a public key hash the same. -/
theorem challengeInput_signer {key : PrivateKey} {A : PublicKey} (context : Bytes)
    (h : key.publicKey.encoded = A.encoded) (prehashed : Bool) (R : Octets 32) (payload : Bytes) :
    (signer key context).challengeInput prehashed R payload =
      (verifier A context).challengeInput prehashed R payload := by
  rw [challengeInput, challengeInput, signer_publicKey, verifier_publicKey, h]
  rfl

/-- What is hashed into a challenge is hashed into no other: for all schemes there can be, it
    determines the input and the context, and so the flavour, the commitment, and the point that is the
    public key. Commitments are encodings of points, when challenges are computed. -/
theorem Reachable.challengeInput_inj (hs : s.Reachable) (hs' : s'.Reachable) (input input' : Input)
    {R R' : Octets 32} (hR : Point.decode? R ≠ none) (hR' : Point.decode? R' ≠ none)
    (h : s.challengeInput input.isPrehashed R input.bytes =
      s'.challengeInput input'.isPrehashed R' input'.bytes) :
    input = input' ∧ s.context = s'.context ∧ R = R' ∧
      ∃ A, s.publicKey.Represents A ∧ s'.publicKey.Represents A := by
  obtain ⟨hinput, hcontext, hcommitment, hencoded⟩ :=
    hs.admitted.eq_of_challengeInput_eq hs'.admitted hR hR' h
  obtain ⟨A, hA⟩ := hs.admitted.represents
  exact ⟨hinput, hcontext, hcommitment, A, hA, hs'.admitted.represents_of_encoded_eq hA hencoded⟩

/-- The case of a signer and a verifier: what they hash is the same, and so is the public key. -/
theorem challengeInput_inj_zero :
    (signer (.ofSeed (.zero 32)) [1, 2, 3]).challengeInput false CurvePoint.base.encode [4, 5] =
      (verifier (.ofCurvePoint (Standard.publicPoint (.zero 32))) [1, 2, 3]).challengeInput false
        CurvePoint.base.encode [4, 5] ∧
    ∃ A, (PrivateKey.ofSeed (.zero 32)).publicKey.Represents A ∧
      (PublicKey.ofCurvePoint (Standard.publicPoint (.zero 32))).Represents A := by
  have hcontext : ([1, 2, 3] : Bytes).length ≤ 255 := by decide
  have hs := reachable_signer hcontext (.zero 32)
  have hs' := reachable_verifier hcontext (Standard.publicPoint (.zero 32))
  have hR : Point.decode? CurvePoint.base.encode ≠ none := by
    rw [Point.decode?_encode]
    exact Option.some_ne_none _
  have hencoded := (PrivateKey.represents_ofSeed (.zero 32)).encoded_eq.trans
    (PublicKey.represents_ofCurvePoint _).encoded_eq.symm
  have h := challengeInput_signer [1, 2, 3] hencoded false CurvePoint.base.encode [4, 5]
  exact ⟨h, (Reachable.challengeInput_inj hs hs' (.message [4, 5]) (.message [4, 5]) hR hR h).2.2.2⟩

end Scheme

end EdwardsSignature
