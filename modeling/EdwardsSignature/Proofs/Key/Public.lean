import EdwardsSignature.Proofs.Curve.Grammar
import EdwardsSignature.Proofs.Key.Reachable

/-!
# Public keys and their encodings

Decoding a public key fails for the byte strings that are not 32 bytes, and then for those that are not
the encoding of a point. From all others it gives a key that has these bytes as its encoding
(`PublicKey.decode_cases`).

Public keys are compared by their encodings, but their points are what signatures are verified with,
and these are in whatever coordinates they were computed in. Of the public keys there can be, two are
equal just if their points are the same point of the curve (`PublicKey.Reachable.beq_iff`).
-/

namespace EdwardsSignature

/-- The bytes are the encoding of a point, by the standard. -/
def Standard.IsEncoding (bytes : Bytes) : Prop :=
  ∃ (code : Octets 32) (x y : ℕ), code.bytes = bytes ∧ Encodes code x y

/-- The encodings are those of the points of the curve. -/
theorem Standard.isEncoding_iff {bytes : Bytes} :
    IsEncoding bytes ↔ ∃ P : CurvePoint, P.encode.bytes = bytes := by
  constructor
  · rintro ⟨code, x, y, rfl, h⟩
    obtain ⟨P, rfl, -⟩ := encodes_iff.1 h
    exact ⟨P, rfl⟩
  · rintro ⟨P, rfl⟩
    exact ⟨P.encode, _, _, rfl, encodes_iff.2 ⟨P, rfl, rfl, rfl⟩⟩

namespace PublicKey

variable {A B : PublicKey}

/-! ## Decoding -/

theorem decode_of_length_ne {bytes : Bytes} (h : bytes.length ≠ 32) :
    decode bytes = .error (.wrongLength "Ed25519 public key" 32 bytes.length) := by
  rw [decode, Octets.ofBytes?_eq_none_iff.2 h, size]

theorem decode_of_not_encoding {code : Octets 32} (h : ¬∃ P : CurvePoint, P.encode = code) :
    decode code.bytes = .error (.notAPoint "Ed25519 public key") := by
  rw [decode, Octets.ofBytes?_bytes]
  simp only [Point.decode?_eq_none_iff.2 h]

/-- The three outcomes, of which each excludes the others. -/
theorem decode_cases (bytes : Bytes) :
    (bytes.length ≠ 32 ∧
      decode bytes = .error (.wrongLength "Ed25519 public key" 32 bytes.length)) ∨
    (bytes.length = 32 ∧ ¬Standard.IsEncoding bytes ∧
      decode bytes = .error (.notAPoint "Ed25519 public key")) ∨
    ∃ P : CurvePoint, P.encode.bytes = bytes ∧ decode bytes = .ok (.ofCurvePoint P) := by
  by_cases hlen : bytes.length = 32
  · by_cases hpoint : Standard.IsEncoding bytes
    · obtain ⟨P, rfl⟩ := Standard.isEncoding_iff.1 hpoint
      exact .inr (.inr ⟨P, rfl, decode_encode P⟩)
    · obtain ⟨code, rfl⟩ := Octets.exists_bytes_eq hlen
      refine .inr (.inl ⟨hlen, hpoint, decode_of_not_encoding ?_⟩)
      rintro ⟨P, rfl⟩
      exact hpoint (Standard.isEncoding_iff.2 ⟨P, rfl⟩)
  · exact .inl ⟨hlen, decode_of_length_ne hlen⟩

/-- What is encoded is decoded, to the same point in the coordinates that decoding gives. -/
theorem Represents.decode_encoded {P : CurvePoint} (h : A.Represents P) :
    decode A.encoded.bytes = .ok (.ofCurvePoint P) := by
  rw [h.encoded_eq, decode_encode]

/-- The encoding in a key stands for the point in it. -/
theorem Represents.decode?_encoded {P : CurvePoint} (h : A.Represents P) :
    ∃ Q, Point.decode? A.encoded = some Q ∧ Q.affine = A.point.affine := by
  rw [h.point.valid.exists_decode?_iff, h.point.encode_eq, h.encoded_eq]

/-! ## Equality -/

theorem beq_iff : (A == B) = true ↔ A.encoded = B.encoded := by
  change (A.encoded == B.encoded) = true ↔ _
  exact beq_iff_eq

/-- Keys that are equal are keys of one point of the curve. -/
theorem Reachable.beq_iff (hA : A.Reachable) (hB : B.Reachable) :
    (A == B) = true ↔ A.point.affine = B.point.affine := by
  obtain ⟨P, hP⟩ := hA.represents
  obtain ⟨Q, hQ⟩ := hB.represents
  rw [PublicKey.beq_iff, hP.encoded_eq, hQ.encoded_eq, CurvePoint.encode_injective.eq_iff,
    hP.point.affine_eq, hQ.point.affine_eq]
  exact ⟨congrArg CurvePoint.affine, CurvePoint.ext⟩

end PublicKey

end EdwardsSignature
