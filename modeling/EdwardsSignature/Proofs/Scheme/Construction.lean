import EdwardsSignature.Proofs.Key.Reachable
import EdwardsSignature.Proofs.Parameters
import EdwardsSignature.Scheme.Basic

/-!
# The schemes there can be

A scheme is made of a reachable key and a context (`Scheme.Reachable`). It then has the parameters of
the curve, a context whose length fits into a byte, and a public key that is a point of the curve with
its encoding (`Scheme.Reachable.admitted`).
-/

namespace EdwardsSignature

namespace Scheme

/-- The schemes there can be. -/
inductive Reachable : Scheme → Prop
  | ofKey {key : Key} {mode : Mode} {context : Bytes} {s : Scheme} :
    key.Reachable → Scheme.ofKey key mode context = .ok s → Reachable s
  | ofKeyNamed {key : Key} {modeName : String} {context : Bytes} {s : Scheme} :
    key.Reachable → Scheme.ofKeyNamed key modeName context = .ok s → Reachable s

/-- What holds of a scheme by the way it was made. -/
structure Admitted (s : Scheme) : Prop where
  curve_eq : s.curve = .ed25519
  context_length_le : s.context.length ≤ 255
  represents : ∃ A, s.publicKey.Represents A

/-- Signatures have 64 bytes. -/
theorem Admitted.signatureSize_eq {s : Scheme} (hs : s.Admitted) : s.curve.signatureSize = 64 := by
  rw [hs.curve_eq]
  rfl

/-! ## Making schemes -/

/-- What a scheme is made of. -/
theorem eq_of_ofKey_eq_ok {key : Key} {mode : Mode} {context : Bytes} {s : Scheme}
    (h : ofKey key mode context = .ok s) :
    context.length ≤ 255 ∧ ∃ A, key.publicHalf = some A ∧
      s = ⟨.ed25519, A, key.privateHalf, context, mode⟩ := by
  rw [ofKey] at h
  split at h
  · next curve A hcurve hA =>
    obtain ⟨-, rfl⟩ := Parameters.find?_eq_some_iff.1 (Option.eq_some_of_filter_eq_some hcurve)
    split at h
    · next hle =>
      cases h
      exact ⟨hle, A, hA, rfl⟩
    · cases h
  · cases h

/-- Naming the mode makes the same schemes. -/
theorem ofKey_of_ofKeyNamed_eq_ok {key : Key} {modeName : String} {context : Bytes} {s : Scheme}
    (h : ofKeyNamed key modeName context = .ok s) : ∃ mode, ofKey key mode context = .ok s := by
  rw [ofKeyNamed] at h
  split at h
  · cases h
  · next mode _ => exact ⟨mode, h⟩

theorem admitted_of_ofKey_eq_ok {key : Key} {mode : Mode} {context : Bytes} {s : Scheme}
    (hkey : key.Reachable) (h : ofKey key mode context = .ok s) : s.Admitted := by
  obtain ⟨hle, A, hA, rfl⟩ := eq_of_ofKey_eq_ok h
  exact ⟨rfl, hle, (hkey.publicHalf A hA).represents⟩

/-- What a scheme was made of, with the mode as such. -/
theorem Reachable.exists_ofKey {s : Scheme} (h : s.Reachable) :
    ∃ (key : Key) (mode : Mode) (context : Bytes),
      key.Reachable ∧ Scheme.ofKey key mode context = .ok s := by
  cases h with
  | ofKey hkey h => exact ⟨_, _, _, hkey, h⟩
  | ofKeyNamed hkey h =>
    obtain ⟨mode, h⟩ := ofKey_of_ofKeyNamed_eq_ok h
    exact ⟨_, mode, _, hkey, h⟩

/-- Every scheme there can be is admitted. -/
theorem Reachable.admitted {s : Scheme} (h : s.Reachable) : s.Admitted := by
  obtain ⟨key, mode, context, hkey, hok⟩ := h.exists_ofKey
  exact admitted_of_ofKey_eq_ok hkey hok

/-- The public key of a scheme is one there can be. -/
theorem Reachable.reachable_publicKey {s : Scheme} (h : s.Reachable) : s.publicKey.Reachable := by
  obtain ⟨key, mode, context, hkey, hok⟩ := h.exists_ofKey
  obtain ⟨-, A, hA, rfl⟩ := eq_of_ofKey_eq_ok hok
  exact hkey.publicHalf A hA

/-- The private key of a scheme, if any, is one there can be. -/
theorem Reachable.reachable_privateKey {s : Scheme} (h : s.Reachable) {k : PrivateKey}
    (hk : s.privateKey = some k) : k.Reachable := by
  obtain ⟨key, mode, context, hkey, hok⟩ := h.exists_ofKey
  obtain ⟨-, A, -, rfl⟩ := eq_of_ofKey_eq_ok hok
  exact hkey.privateHalf k hk

/-- Schemes whose public keys are encoded alike have the same point for a public key. -/
theorem Admitted.represents_of_encoded_eq {s s' : Scheme} {A : CurvePoint} (hs' : s'.Admitted)
    (hA : s.publicKey.Represents A) (hkey : s.publicKey.encoded = s'.publicKey.encoded) :
    s'.publicKey.Represents A := by
  obtain ⟨A', hA'⟩ := hs'.represents
  rw [hA.encoded_eq, hA'.encoded_eq] at hkey
  obtain rfl := CurvePoint.encode_injective hkey
  exact hA'

/-- Of a key of the curve with a public half, the context decides whether there is a scheme. -/
theorem ofKey_of_find? {key : Key} {A : PublicKey}
    (hname : Parameters.find? key.curveName = some .ed25519) (hA : key.publicHalf = some A)
    (mode : Mode) (context : Bytes) :
    ofKey key mode context =
      if context.length ≤ 255 then .ok ⟨.ed25519, A, key.privateHalf, context, mode⟩
      else .error (.contextTooLong 255 context.length) := by
  have hfilter : (Parameters.find? key.curveName).filter (·.name = Parameters.ed25519.name) =
      some .ed25519 := by
    rw [hname]
    rfl
  rw [ofKey]
  simp only [hfilter, hA]
  rfl

/-- A key of the curve with a public half makes a scheme with every context that is short enough. -/
theorem ofKey_eq_ok {key : Key} {A : PublicKey} {context : Bytes}
    (hname : key.curveName = Parameters.ed25519.name) (hA : key.publicHalf = some A)
    (hle : context.length ≤ 255) (mode : Mode) :
    ofKey key mode context = .ok ⟨.ed25519, A, key.privateHalf, context, mode⟩ := by
  have hfind : Parameters.find? key.curveName = some .ed25519 := by
    rw [hname]
    decide
  rw [ofKey_of_find? hfind hA, if_pos hle]

theorem ofKeyNamed_rfc8032 (key : Key) (context : Bytes) :
    ofKeyNamed key "rfc8032" context = ofKey key .rfc8032 context := by
  have hmode : Mode.ofName "rfc8032" = .ok .rfc8032 := if_pos rfl
  rw [ofKeyNamed, hmode]

/-! ## Signers and verifiers -/

/-- The scheme of a private key. -/
def signer (key : PrivateKey) (context : Bytes) : Scheme :=
  ⟨.ed25519, key.publicKey, some key, context, .rfc8032⟩

/-- The scheme of a public key, which has nothing to sign with. -/
def verifier (A : PublicKey) (context : Bytes) : Scheme :=
  ⟨.ed25519, A, none, context, .rfc8032⟩

@[simp] theorem signer_publicKey (key : PrivateKey) (context : Bytes) :
    (signer key context).publicKey = key.publicKey := rfl

@[simp] theorem verifier_publicKey (A : PublicKey) (context : Bytes) :
    (verifier A context).publicKey = A := rfl

section

variable {context : Bytes} (hle : context.length ≤ 255)

include hle

theorem ofKeyNamed_privateKey (key : PrivateKey) :
    ofKeyNamed key.toKey "rfc8032" context = .ok (signer key context) := by
  rw [ofKeyNamed_rfc8032]
  exact ofKey_eq_ok rfl rfl hle .rfc8032

theorem ofKeyNamed_publicKey (A : PublicKey) :
    ofKeyNamed A.toKey "rfc8032" context = .ok (verifier A context) := by
  rw [ofKeyNamed_rfc8032]
  exact ofKey_eq_ok rfl rfl hle .rfc8032

theorem reachable_signer (seed : Octets 32) : (signer (.ofSeed seed) context).Reachable :=
  .ofKeyNamed (PrivateKey.Reachable.ofSeed seed).toKey (ofKeyNamed_privateKey hle _)

theorem reachable_verifier (A : CurvePoint) : (verifier (.ofCurvePoint A) context).Reachable :=
  .ofKeyNamed (PublicKey.reachable_ofCurvePoint A).toKey (ofKeyNamed_publicKey hle _)

end

end Scheme

end EdwardsSignature
