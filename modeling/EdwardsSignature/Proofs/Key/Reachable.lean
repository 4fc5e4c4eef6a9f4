import EdwardsSignature.Key.Basic
import EdwardsSignature.Proofs.Key.Expansion
import EdwardsSignature.Proofs.Scalar
import EdwardsSignature.Proofs.Standard

/-!
# The keys there can be

A private key comes from a seed, and may have been wiped since; a public key was decoded, or belongs
to a private key. These are the *reachable* keys, and they keep to an invariant: the point and the
encoding in a public key never drift apart, as both are those of one point of the curve
(`PublicKey.Reachable.represents`). For a key from a seed, it is the multiple of the base point by
the secret integer, though it was computed from the scalar (`PrivateKey.represents_ofSeed`).

A key that is shown to a scheme may claim to be for any curve, and may show any two halves, which
need not belong together (`Key.Reachable`).
-/

namespace EdwardsSignature

/-! ## Private keys -/

/-- The private keys there can be. -/
inductive PrivateKey.Reachable : PrivateKey → Prop
  | ofSeed (seed : Octets 32) : Reachable (.ofSeed seed)
  | wipe {key : PrivateKey} : Reachable key → Reachable key.wipe

namespace PrivateKey

/-- The scalar of a seed is the secret integer of the seed, reduced. -/
theorem ofSeed_scalar (seed : Octets 32) :
    (ofSeed seed).scalar = (Standard.secret seed : Scalar) := by
  have h : (ofSeed seed).scalar =
      ((clamp (Sha512.digest seed.bytes).lower).toNat : Scalar) := rfl
  rw [h, toNat_clamp, Standard.secret]

/-- The base point counts the scalar of a seed as the secret integer. -/
theorem scalar_nsmul_base (seed : Octets 32) :
    (ofSeed seed).scalar.val • CurvePoint.base = Standard.publicPoint seed := by
  rw [ofSeed_scalar, Scalar.val_nsmul_base, Standard.publicPoint]

theorem decode_eq_ok (seed : Octets 32) : decode seed.bytes = .ok (ofSeed seed) := by
  rw [decode, Octets.ofBytes?_bytes]

/-- Private keys are decoded from seeds. -/
theorem reachable_of_decode_eq_ok {bytes : Bytes} {key : PrivateKey} (h : decode bytes = .ok key) :
    key.Reachable := by
  rw [decode] at h
  split at h
  · cases h
  · next seed _ =>
    cases h
    exact .ofSeed seed

end PrivateKey

/-! ## Public keys -/

namespace PublicKey

/-- The key consists of the point `P` of the curve and its encoding. -/
structure Represents (A : PublicKey) (P : CurvePoint) : Prop where
  point : A.point.Represents P
  encoded_eq : A.encoded = P.encode

/-- The public keys there can be. -/
inductive Reachable : PublicKey → Prop
  | decode {bytes : Bytes} {A : PublicKey} : PublicKey.decode bytes = .ok A → Reachable A
  | ofPrivateKey {key : PrivateKey} : key.Reachable → Reachable key.publicKey

theorem represents_ofPoint {P : Point} {A : CurvePoint} (h : P.Represents A) :
    (ofPoint P).Represents A :=
  ⟨h, h.encode_eq⟩

/-- The key of a point of the curve, in the coordinates that decoding gives. -/
def ofCurvePoint (P : CurvePoint) : PublicKey := ⟨.ofAffine P.affine, P.encode⟩

theorem represents_ofCurvePoint (P : CurvePoint) : (ofCurvePoint P).Represents P :=
  ⟨Point.represents_ofAffine P, rfl⟩

theorem decode_encode (P : CurvePoint) : decode P.encode.bytes = .ok (ofCurvePoint P) := by
  rw [decode, Octets.ofBytes?_bytes]
  simp only [Point.decode?_encode]
  rfl

theorem reachable_ofCurvePoint (P : CurvePoint) : (ofCurvePoint P).Reachable :=
  .decode (decode_encode P)

/-- What is decoded is the encoding of a point. -/
theorem represents_of_decode_eq_ok {bytes : Bytes} {A : PublicKey} (h : decode bytes = .ok A) :
    ∃ P, A.Represents P := by
  rw [decode] at h
  split at h
  · cases h
  · split at h
    · cases h
    · next code _ Q hQ =>
      cases h
      obtain ⟨P, rfl, rfl⟩ := Point.decode?_eq_some_iff.1 hQ
      exact ⟨P, represents_ofCurvePoint P⟩

end PublicKey

namespace PrivateKey

/-- The public key of a seed is the point that the standard says it is. -/
theorem represents_ofSeed (seed : Octets 32) :
    (ofSeed seed).publicKey.Represents (Standard.publicPoint seed) := by
  have h : (ofSeed seed).publicKey =
      .ofPoint (Point.base.multiple (ofSeed seed).scalar.val) := rfl
  rw [h, ← scalar_nsmul_base]
  exact PublicKey.represents_ofPoint (Point.represents_base.multiple _)

/-- Wiping leaves the public key alone. -/
theorem Reachable.represents {key : PrivateKey} (h : key.Reachable) :
    ∃ P, key.publicKey.Represents P := by
  induction h with
  | ofSeed seed => exact ⟨_, represents_ofSeed seed⟩
  | wipe _ ih => exact ih

end PrivateKey

/-- The invariant of public keys: point and encoding are those of one point of the curve. -/
theorem PublicKey.Reachable.represents {A : PublicKey} (h : A.Reachable) :
    ∃ P, A.Represents P := by
  cases h with
  | decode h => exact represents_of_decode_eq_ok h
  | ofPrivateKey h => exact h.represents

/-! ## Keys as a scheme sees them -/

/-- The keys that can be shown to a scheme: the halves they show are reachable. -/
structure Key.Reachable (key : Key) : Prop where
  publicHalf : ∀ A, key.publicHalf = some A → A.Reachable
  privateHalf : ∀ k, key.privateHalf = some k → k.Reachable

theorem PrivateKey.Reachable.toKey {key : PrivateKey} (h : key.Reachable) : key.toKey.Reachable where
  publicHalf _ hA := Option.some_inj.1 hA ▸ .ofPrivateKey h
  privateHalf _ hk := Option.some_inj.1 hk ▸ h

theorem PublicKey.Reachable.toKey {A : PublicKey} (h : A.Reachable) : A.toKey.Reachable where
  publicHalf _ hA := Option.some_inj.1 hA ▸ h
  privateHalf _ hk := absurd hk (Option.some_ne_none _).symm

end EdwardsSignature
