import EdwardsSignature.Proofs.Key.Reachable
import EdwardsSignature.Proofs.Plain

/-!
# Where private keys come from

A private key is decoded from 32 bytes, derived from the first 32 bytes of a longer string, or drawn from
a stream, by itself or in a key pair. All of these take 32 bytes for a seed, so that the same bytes give
the same key, and encoding the key gives the bytes back.

Keys that are drawn from one stream, in a sequence of calls of both kinds (`Drawing.answers`), have the
seeds that follow each other in it: no byte is skipped and none is drawn twice. A call draws 32 bytes
(`Drawing.answer_eq`), and the rest is induction over the calls (`Drawing.answers_eq`).
-/

namespace EdwardsSignature

/-! ## Streams -/

namespace ByteStream

/-- The `n` bytes of a stream from a position on. -/
def slice (s : ByteStream) (start n : ℕ) : Octets n :=
  ⟨(List.range n).map fun i => s.byteAt (start + i), by simp⟩

/-- The stream after `n` more bytes have been drawn. -/
def skip (s : ByteStream) (n : ℕ) : ByteStream := { s with drawn := s.drawn + n }

variable (s : ByteStream)

theorem slice_skip (m start n : ℕ) : (s.skip m).slice start n = s.slice start n := rfl

theorem drawn_skip (n : ℕ) : (s.skip n).drawn = s.drawn + n := rfl

theorem skip_skip (m n : ℕ) : (s.skip m).skip n = s.skip (m + n) := by
  simp only [skip, Nat.add_assoc]

end ByteStream

/-! ## Drawing keys -/

/-- A call that draws a private key from a stream. -/
inductive Drawing where
  /-- For the private key. -/
  | privateKey
  /-- For the private key and its public key. -/
  | keyPair

namespace Drawing

/-- What a call returns, for a stream: the public key, if it is asked for, the private key, and the stream
    with the bytes drawn. -/
def answer : Drawing → ByteStream → (Option PublicKey × PrivateKey) × ByteStream
  | privateKey, s =>
    let (key, rest) := PrivateKey.generate s
    ((none, key), rest)
  | keyPair, s =>
    let ((A, key), rest) := Plain.keyPair s
    ((some A, key), rest)

/-- What a sequence of calls returns, for one stream. -/
def answers : List Drawing → ByteStream → List (Option PublicKey × PrivateKey) × ByteStream
  | [], s => ([], s)
  | call :: calls, s =>
    let (first, s') := call.answer s
    let (others, rest) := answers calls s'
    (first :: others, rest)

/-- What a call returns of a private key. -/
def shown : Drawing → PrivateKey → Option PublicKey × PrivateKey
  | privateKey, key => (none, key)
  | keyPair, key => (some key.publicKey, key)

/-- A call draws a seed and returns the key of the seed. -/
theorem answer_eq (call : Drawing) (s : ByteStream) :
    call.answer s = (call.shown (.ofSeed (s.slice s.drawn 32)), s.skip 32) := by
  cases call <;> rfl

/-- The calls draw seeds one after the other. -/
theorem answers_eq (calls : List Drawing) (s : ByteStream) :
    answers calls s =
      (calls.mapIdx fun i call => call.shown (.ofSeed (s.slice (s.drawn + 32 * i) 32)),
        s.skip (32 * calls.length)) := by
  induction calls generalizing s with
  | nil => rfl
  | cons call calls ih =>
    rw [answers, answer_eq]
    dsimp only
    rw [ih, List.mapIdx_cons, ByteStream.skip_skip, List.length_cons]
    -- The positions in the rest are those after the first seed.
    have hposition (i : ℕ) : s.drawn + 32 + 32 * i = s.drawn + 32 * (i + 1) := by omega
    have hcount : 32 + 32 * calls.length = 32 * (calls.length + 1) := by omega
    simp only [ByteStream.slice_skip, ByteStream.drawn_skip, hposition, hcount, mul_zero, add_zero]

end Drawing

/-! ## Decoding and deriving keys -/

namespace PrivateKey

theorem decode_of_length_ne {bytes : Bytes} (h : bytes.length ≠ 32) :
    decode bytes = .error (.wrongLength "Ed25519 private key" 32 bytes.length) := by
  rw [decode, Octets.ofBytes?_eq_none_iff.2 h, size]

theorem decode_eq_error_iff {bytes : Bytes} {e : Error} :
    decode bytes = .error e ↔
      bytes.length ≠ 32 ∧ e = .wrongLength "Ed25519 private key" 32 bytes.length := by
  by_cases h : bytes.length = 32
  · obtain ⟨seed, rfl⟩ := Octets.exists_bytes_eq h
    simp [decode_eq_ok]
  · simp [decode_of_length_ne h, h, eq_comm]

end PrivateKey

namespace Plain

theorem decodePrivateKey_eq_ok (seed : Octets 32) :
    decodePrivateKey seed.bytes = .ok (.ofSeed seed) := by
  rw [decodePrivateKey, PrivateKey.decode_eq_ok]
  rfl

theorem decodePrivateKey_eq_error_iff {bytes : Bytes} {failure : Failure} :
    decodePrivateKey bytes = .error failure ↔ bytes.length ≠ 32 ∧
      failure = .invalidLength "Ed25519::deserialize_secret_key" 32 bytes.length := by
  rw [decodePrivateKey, mapError_eq_error_iff]
  constructor
  · rintro ⟨e, he, rfl⟩
    obtain ⟨hlen, rfl⟩ := PrivateKey.decode_eq_error_iff.1 he
    exact ⟨hlen, rfl⟩
  · rintro ⟨hlen, rfl⟩
    exact ⟨_, PrivateKey.decode_of_length_ne hlen, rfl⟩

/-- What follows the first 32 bytes does not count. -/
theorem derive_append (seed : Octets 32) (tail : Bytes) :
    derive (seed.bytes ++ tail) = .ok ((PrivateKey.ofSeed seed).publicKey, .ofSeed seed) := by
  have htake : (seed.bytes ++ tail).take 32 = seed.bytes := List.take_left' seed.length_bytes
  rw [derive, htake, Octets.ofBytes?_bytes]

theorem derive_of_length_lt {bytes : Bytes} (h : bytes.length < 32) :
    derive bytes = .error (.invalidParameter "Ed25519::derive_keypair"
      "Seed too short: minimum 32 bytes required") := by
  have htake : (bytes.take 32).length ≠ 32 := by
    rw [List.length_take]
    omega
  rw [derive, Octets.ofBytes?_eq_none_iff.2 htake]
  rfl

theorem derive_eq_error_iff {bytes : Bytes} {failure : Failure} :
    derive bytes = .error failure ↔ bytes.length < 32 ∧
      failure = .invalidParameter "Ed25519::derive_keypair"
        "Seed too short: minimum 32 bytes required" := by
  by_cases h : bytes.length < 32
  · simp [derive_of_length_lt h, h, eq_comm]
  · have hlen : (bytes.take 32).length = 32 := by
      rw [List.length_take]
      omega
    have hderive := derive_append ⟨bytes.take 32, hlen⟩ (bytes.drop 32)
    rw [List.take_append_drop] at hderive
    simp [hderive, h]

end Plain

/-! ## Origins -/

namespace PrivateKey

/-- For any 32 bytes, the key of the seed, the key that is decoded, by itself or from the plain functions,
    the key that is derived, whatever follows the bytes, and the key that is drawn, by itself or in a
    pair, from a stream that goes on with the bytes, are the same key, and encoding it gives the bytes
    back. Any calls that draw keys from one stream have the keys of the seeds that follow each other in
    it, and draw 32 bytes each. Byte strings that are not 32 bytes long cannot be decoded, and strings of
    less than 32 bytes are too short to derive a key from; nothing else can go wrong. -/
theorem origins_agree :
    (∀ (seed : Octets 32) (tail : Bytes) (s : ByteStream), s.slice s.drawn 32 = seed →
      decode seed.bytes = .ok (ofSeed seed) ∧
      Plain.decodePrivateKey seed.bytes = .ok (ofSeed seed) ∧
      Plain.derive (seed.bytes ++ tail) = .ok ((ofSeed seed).publicKey, ofSeed seed) ∧
      generate s = (ofSeed seed, s.skip 32) ∧
      Plain.keyPair s = (((ofSeed seed).publicKey, ofSeed seed), s.skip 32) ∧
      (ofSeed seed).encode = seed ∧ Plain.encodePrivateKey (ofSeed seed) = seed.bytes) ∧
    (∀ (calls : List Drawing) (s : ByteStream),
      Drawing.answers calls s =
        (calls.mapIdx fun i call => call.shown (ofSeed (s.slice (s.drawn + 32 * i) 32)),
          s.skip (32 * calls.length))) ∧
    ∀ bytes : Bytes,
      (∀ e, decode bytes = .error e ↔
        bytes.length ≠ 32 ∧ e = .wrongLength "Ed25519 private key" 32 bytes.length) ∧
      (∀ failure, Plain.decodePrivateKey bytes = .error failure ↔ bytes.length ≠ 32 ∧
        failure = .invalidLength "Ed25519::deserialize_secret_key" 32 bytes.length) ∧
      ∀ failure, Plain.derive bytes = .error failure ↔ bytes.length < 32 ∧
        failure = .invalidParameter "Ed25519::derive_keypair"
          "Seed too short: minimum 32 bytes required" := by
  refine ⟨fun seed tail s hs => ?_, Drawing.answers_eq, fun bytes =>
    ⟨fun _ => decode_eq_error_iff, fun _ => Plain.decodePrivateKey_eq_error_iff,
      fun _ => Plain.derive_eq_error_iff⟩⟩
  subst hs
  exact ⟨decode_eq_ok _, Plain.decodePrivateKey_eq_ok _, Plain.derive_append _ _, rfl, rfl, rfl, rfl⟩

/-- The case of a seed of zeros, and of a stream that goes on with zeros after the byte that has been
    drawn from it. -/
theorem origins_agree_zero :
    ByteStream.slice ⟨fun i => if i = 0 then 255 else 0, 1⟩ 1 32 = .zero 32 ∧
    decode (List.replicate 32 0) = .ok (ofSeed (.zero 32)) ∧
    Plain.decodePrivateKey (List.replicate 32 0) = .ok (ofSeed (.zero 32)) ∧
    Plain.derive (List.replicate 32 0 ++ [255]) =
      .ok ((ofSeed (.zero 32)).publicKey, ofSeed (.zero 32)) ∧
    generate ⟨fun i => if i = 0 then 255 else 0, 1⟩ =
      (ofSeed (.zero 32), ⟨fun i => if i = 0 then 255 else 0, 33⟩) ∧
    Plain.encodePrivateKey (ofSeed (.zero 32)) = List.replicate 32 0 := by
  have hslice : ByteStream.slice ⟨fun i => if i = 0 then 255 else 0, 1⟩ 1 32 = .zero 32 := by decide
  obtain ⟨hroads, -⟩ := origins_agree
  obtain ⟨hdecode, hplain, hderive, hgenerate, -, -, hencode⟩ := hroads (.zero 32) [255] _ hslice
  exact ⟨hslice, hdecode, hplain, hderive, hgenerate, hencode⟩

end PrivateKey

end EdwardsSignature
