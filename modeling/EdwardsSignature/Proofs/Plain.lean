import EdwardsSignature.Plain
import EdwardsSignature.Proofs.Failure
import EdwardsSignature.Proofs.Scheme.Signing
import EdwardsSignature.Proofs.Scheme.Verification

/-!
# Plain signatures are those of schemes

The plain functions make a scheme for every call: one of the plain flavour, with the empty context and
a message for the input. Making it cannot fail, as the keys are keys of the curve and the context is
short, and neither can signing, as there is a private key and no digest (`Plain.sign_eq_ok`). Verifying
fails where the scheme does (`Plain.verify_eq`); as the type of a signature leaves it no other size, only
the signature can be at fault (`Plain.exists_rejection_of_verify_eq_error`).

So a message has the same signature, and a byte string the same verdict, from the plain functions as
from the scheme, but that a byte string of another size is refused ahead of it, with a failure of its
own (`Plain.refines_scheme`).
-/

namespace EdwardsSignature

/-! ## Errors that become failures -/

section

variable {ε ε' α : Type} {f : ε → ε'} {x : Except ε α}

theorem mapError_eq_ok_iff {a : α} : x.mapError f = .ok a ↔ x = .ok a := by
  cases x <;> simp [Except.mapError]

theorem mapError_eq_error_iff {e' : ε'} : x.mapError f = .error e' ↔ ∃ e, x = .error e ∧ f e = e' := by
  cases x <;> simp [Except.mapError]

end

namespace Plain

open Scheme (signer verifier)

variable {message bytes : Bytes} {A : PublicKey}

/-! ## Signing -/

/-- Signing is signing by the scheme of the key, and cannot fail. -/
theorem sign_eq_ok (message : Bytes) (key : PrivateKey) :
    sign message key = .ok ((signer key []).signPayload key false message) := by
  rw [sign, ← Scheme.ofKeyNamed_rfc8032, Scheme.ofKeyNamed_privateKey (Nat.zero_le _)]
  rfl

/-! ## Verifying -/

/-- Verifying is verifying by the scheme of the key. -/
theorem verify_eq (message : Bytes) (signature : Signature) (A : PublicKey) :
    verify message signature A =
      ((verifier A []).verify (.message message) signature.toOctets.bytes).mapError .ofError := by
  rw [verify, ← Scheme.ofKeyNamed_rfc8032, Scheme.ofKeyNamed_publicKey (Nat.zero_le _)]
  rfl

/-- Only the signature can be at fault. -/
theorem exists_rejection_of_verify_message_eq_error {octets : Octets 64} {e : Error}
    (h : (verifier A []).verify (.message message) octets.bytes = .error e) :
    ∃ rejection, e = .notAuthentic rejection := by
  have hinput : (Input.message message).WellFormed := trivial
  rw [Scheme.verify_of_wellFormed rfl hinput] at h
  exact Scheme.exists_rejection_of_verifyPayload_eq_error h

/-- No error but for the signature is behind a failure. -/
theorem exists_rejection_of_verify_eq_error {signature : Signature} {e : Error}
    (h : verify message signature A = .error (.ofError e)) : ∃ rejection, e = .notAuthentic rejection := by
  rw [verify_eq, mapError_eq_error_iff] at h
  obtain ⟨e', hverify, hfailure⟩ := h
  obtain rfl := Failure.ofError_injective hfailure
  exact exists_rejection_of_verify_message_eq_error hverify

/-! ## Byte strings -/

/-- Verifies a byte string as a signature of a message. -/
def verifyBytes (message bytes : Bytes) (A : PublicKey) : Except Failure Unit := do
  let signature ← decodeSignature bytes
  verify message signature A

/-- A byte string of another size is refused ahead of the scheme. -/
theorem verifyBytes_of_length_ne (h : bytes.length ≠ 64) :
    verifyBytes message bytes A =
      .error (.invalidLength "Ed25519Signature::from_bytes" 64 bytes.length) := by
  rw [verifyBytes, decodeSignature, Octets.ofBytes?_eq_none_iff.2 h, Signature.size]
  rfl

/-- Byte strings of the size of signatures are left to the scheme. -/
theorem verifyBytes_octets (message : Bytes) (octets : Octets 64) (A : PublicKey) :
    verifyBytes message octets.bytes A =
      ((verifier A []).verify (.message message) octets.bytes).mapError .ofError := by
  have hverify := verify_eq message (.ofOctets octets) A
  rw [Signature.toOctets_ofOctets] at hverify
  rw [verifyBytes, decodeSignature, Octets.ofBytes?_bytes]
  exact hverify

/-- The same byte strings are accepted. -/
theorem verifyBytes_eq_ok_iff :
    verifyBytes message bytes A = .ok () ↔
      (verifier A []).verify (.message message) bytes = .ok () := by
  by_cases hlen : bytes.length = 64
  · obtain ⟨octets, rfl⟩ := Octets.exists_bytes_eq hlen
    rw [verifyBytes_octets, mapError_eq_ok_iff]
  · rw [verifyBytes_of_length_ne hlen, Scheme.verify_of_length_ne rfl hlen]
    simp

/-- Byte strings of the size of signatures fail for the reason that the scheme gives. -/
theorem verifyBytes_eq_error_iff (hlen : bytes.length = 64) {failure : Failure} :
    verifyBytes message bytes A = .error failure ↔ ∃ rejection,
      (verifier A []).verify (.message message) bytes = .error (.notAuthentic rejection) ∧
      failure = .invalidSignature "Ed25519 verify" (Error.notAuthentic rejection).message := by
  obtain ⟨octets, rfl⟩ := Octets.exists_bytes_eq hlen
  rw [verifyBytes_octets, mapError_eq_error_iff]
  constructor
  · rintro ⟨e, hverify, rfl⟩
    obtain ⟨rejection, rfl⟩ := exists_rejection_of_verify_message_eq_error hverify
    exact ⟨rejection, hverify, rfl⟩
  · rintro ⟨rejection, hverify, rfl⟩
    exact ⟨_, hverify, rfl⟩

/-! ## Refinement -/

/-- With any private key, a message is signed as the scheme of the key signs it in the empty context,
    and nothing can fail. With any public key there can be, a byte string is accepted as a signature of a
    message just if the scheme of the key accepts it, which gives the verdict of the standard. One that
    has not the size of a signature fails for its length. One that has it fails as an invalid signature,
    with the message for the first check that fails in the scheme, and in no other way; and as no other
    error becomes that failure, verifying never meets one that is not about the signature. -/
theorem refines_scheme :
    (∀ (key : PrivateKey) (message : Bytes), ∃ scheme signature,
      Scheme.ofKeyNamed key.toKey "rfc8032" [] = .ok scheme ∧
      scheme.sign (.message message) = .ok signature ∧ sign message key = .ok signature) ∧
    (∀ A : PublicKey, A.Reachable → ∃ P scheme,
      A.Represents P ∧ Scheme.ofKeyNamed A.toKey "rfc8032" [] = .ok scheme ∧
      ∀ message bytes,
        scheme.verify (.message message) bytes = Standard.verdict P [] (.message message) bytes ∧
        (verifyBytes message bytes A = .ok () ↔ scheme.verify (.message message) bytes = .ok ()) ∧
        (bytes.length ≠ 64 → verifyBytes message bytes A =
          .error (.invalidLength "Ed25519Signature::from_bytes" 64 bytes.length)) ∧
        (bytes.length = 64 → ∀ failure, verifyBytes message bytes A = .error failure ↔
          ∃ rejection, scheme.verify (.message message) bytes = .error (.notAuthentic rejection) ∧
            failure = .invalidSignature "Ed25519 verify" (Error.notAuthentic rejection).message)) ∧
    ∀ message signature (A : PublicKey) e, verify message signature A = .error (.ofError e) →
      ∃ rejection, e = .notAuthentic rejection := by
  have hle : ([] : Bytes).length ≤ 255 := Nat.zero_le _
  refine ⟨fun key message => ?_, fun A hA => ?_, fun _ _ _ _ => exists_rejection_of_verify_eq_error⟩
  · have hinput : (Input.message message).WellFormed := trivial
    exact ⟨_, _, Scheme.ofKeyNamed_privateKey hle key, Scheme.sign_eq_ok hinput rfl,
      sign_eq_ok message key⟩
  · obtain ⟨P, hP⟩ := hA.represents
    have hscheme := Scheme.ofKeyNamed_publicKey hle A
    have hadmitted := (Scheme.Reachable.ofKeyNamed hA.toKey hscheme).admitted
    refine ⟨P, _, hP, hscheme, fun message bytes => ⟨?_, verifyBytes_eq_ok_iff,
      verifyBytes_of_length_ne, fun hlen _ => verifyBytes_eq_error_iff hlen⟩⟩
    exact hadmitted.verify_eq hP (.message message) bytes

/-- The case of a public key of order `8`. Zeros are a signature of the empty message, but not with a
    byte less; ones do not begin with the encoding of a point, and the check that they fail is told. -/
theorem refines_scheme_octant :
    (PublicKey.ofCurvePoint .octant).Reachable ∧
    verifyBytes [] (List.replicate 64 0) (.ofCurvePoint .octant) = .ok () ∧
    verifyBytes [] (List.replicate 63 0) (.ofCurvePoint .octant) =
      .error (.invalidLength "Ed25519Signature::from_bytes" 64 63) ∧
    verifyBytes [] (List.replicate 64 255) (.ofCurvePoint .octant) =
      .error (.invalidSignature "Ed25519 verify" "The signature is not authentic (R)") ∧
    verify [] (.ofOctets ⟨List.replicate 64 255, rfl⟩) (.ofCurvePoint .octant) =
      .error (.ofError (.notAuthentic .commitment)) ∧
    ∃ rejection, Error.notAuthentic .commitment = .notAuthentic rejection := by
  have hreachable := PublicKey.reachable_ofCurvePoint .octant
  obtain ⟨-, hverify, hreason⟩ := refines_scheme
  obtain ⟨_, scheme, -, hscheme, hbytes⟩ := hverify _ hreachable
  obtain rfl := Except.ok.inj ((Scheme.ofKeyNamed_publicKey (Nat.zero_le _) _).symm.trans hscheme)
  obtain ⟨-, hzeros, -⟩ := hbytes [] (List.replicate 64 0)
  obtain ⟨-, -, hshort, -⟩ := hbytes [] (List.replicate 63 0)
  obtain ⟨-, -, -, hones⟩ := hbytes [] (List.replicate 64 255)
  have hrejected : (verifier (.ofCurvePoint .octant) []).verify (.message []) (List.replicate 64 255) =
      .error (.notAuthentic .commitment) := by decide +kernel
  have hfailure := (hones rfl _).2 ⟨_, hrejected, rfl⟩
  have hofError : verify [] (.ofOctets ⟨List.replicate 64 255, rfl⟩) (.ofCurvePoint .octant) =
      .error (.ofError (.notAuthentic .commitment)) := hfailure
  exact ⟨hreachable, hzeros.2 (by decide +kernel), hshort (by decide), hfailure, hofError,
    hreason _ _ _ _ hofError⟩

end Plain

end EdwardsSignature
