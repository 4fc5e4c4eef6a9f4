import EdwardsSignature.Proofs.Sha512.Constants
import EdwardsSignature.Sha512.Digest

/-!
# Digests are those of the standard

The digest of a byte string is the SHA-512 digest of its bits (`Sha512.bits_digest`).

The functions on words are the same, and so is a round (`State.words_round`). The schedule, which is
computed by extending a vector, has the words that the recurrence gives (`schedule_getElem`), so that a
block is compressed in the same way (`State.words_compress`), and one block after the other as well
(`State.words_compressBlocks`). The padding is made of bytes, and still has no more zeros than it has to
(`zeros_eq`).
-/

namespace EdwardsSignature.Sha512

open Bitwise (Word Words scheduleWord roundConstant zeros)

/-! ## Words -/

theorem toNat_toBitVec_mod {n : UInt64} (hlt : n.toNat < 64) : (n.toBitVec % 64).toNat = n.toNat := by
  rw [BitVec.toNat_umod, UInt64.toNat_toBitVec]
  exact Nat.mod_eq_of_lt hlt

theorem toBitVec_rotateRight (x n : UInt64) (hpos : 0 < n.toNat) (hlt : n.toNat < 64) :
    (rotateRight x n).toBitVec = x.toBitVec.rotateRight n.toNat := by
  have hback : (64 - n).toNat = 64 - n.toNat := by
    rw [UInt64.toNat_sub_of_le]
    · rfl
    · exact UInt64.le_iff_toNat_le.2 hlt.le
  have hback_lt : (64 - n).toNat < 64 := by omega
  rw [rotateRight, UInt64.toBitVec_or, UInt64.toBitVec_shiftRight, UInt64.toBitVec_shiftLeft,
    BitVec.ushiftRight_eq', BitVec.shiftLeft_eq', toNat_toBitVec_mod hlt, toNat_toBitVec_mod hback_lt,
    hback, BitVec.rotateRight_def, Nat.mod_eq_of_lt hlt]

@[simp] theorem toBitVec_choose (x y z : UInt64) :
    (choose x y z).toBitVec = Bitwise.ch x.toBitVec y.toBitVec z.toBitVec := rfl

@[simp] theorem toBitVec_majority (x y z : UInt64) :
    (majority x y z).toBitVec = Bitwise.maj x.toBitVec y.toBitVec z.toBitVec := rfl

@[simp] theorem toBitVec_bigSigma0 (x : UInt64) :
    (bigSigma0 x).toBitVec = Bitwise.bigSigma0 x.toBitVec := by
  simp (disch := decide) only [bigSigma0, Bitwise.bigSigma0, UInt64.toBitVec_xor, toBitVec_rotateRight]
  rfl

@[simp] theorem toBitVec_bigSigma1 (x : UInt64) :
    (bigSigma1 x).toBitVec = Bitwise.bigSigma1 x.toBitVec := by
  simp (disch := decide) only [bigSigma1, Bitwise.bigSigma1, UInt64.toBitVec_xor, toBitVec_rotateRight]
  rfl

@[simp] theorem toBitVec_smallSigma0 (x : UInt64) :
    (smallSigma0 x).toBitVec = Bitwise.smallSigma0 x.toBitVec := by
  simp (disch := decide) only [smallSigma0, Bitwise.smallSigma0, UInt64.toBitVec_xor,
    toBitVec_rotateRight]
  rfl

@[simp] theorem toBitVec_smallSigma1 (x : UInt64) :
    (smallSigma1 x).toBitVec = Bitwise.smallSigma1 x.toBitVec := by
  simp (disch := decide) only [smallSigma1, Bitwise.smallSigma1, UInt64.toBitVec_xor,
    toBitVec_rotateRight]
  rfl

/-! ## The schedule -/

theorem toBitVec_blockWord (block : Bytes) (i : ℕ) :
    (blockWord block i).toBitVec = Bitwise.blockWord (.ofBytes block) i := by
  have hplace : 64 * i = 8 * (8 * i) := by omega
  have hword := Bits.take_ofBytes (block.drop (8 * i)) 8
  rw [blockWord, Bitwise.blockWord, hplace, Bits.drop_ofBytes, hword, Bits.toNat_ofBytes]
  rfl

/-- However far the schedule is extended, its words are those of the recurrence. -/
theorem toBitVec_schedule_getElem (block : Bytes) {n t : ℕ} (ht : t < n) :
    (schedule block n)[t].toBitVec = scheduleWord (.ofBytes block) t := by
  induction n generalizing t with
  | zero => exact absurd ht t.not_lt_zero
  | succ n ih =>
    simp only [schedule]
    rcases Nat.lt_succ_iff_lt_or_eq.1 ht with hlt | rfl
    · rw [Vector.getElem_push_lt hlt, ih]
    · rw [Vector.getElem_push_eq, scheduleWord]
      split_ifs with h16
      · exact toBitVec_blockWord block t
      · simp only [UInt64.toBitVec_add, toBitVec_smallSigma0, toBitVec_smallSigma1, ih]

theorem map_toBitVec_schedule (block : Bytes) (n : ℕ) :
    (schedule block n).toList.map UInt64.toBitVec =
      (List.range n).map (scheduleWord (.ofBytes block)) := by
  refine List.ext_getElem (by simp) fun t ht ht' => ?_
  rw [List.length_map, List.length_range] at ht'
  simp [toBitVec_schedule_getElem block ht']

namespace State

/-! ## Blocks -/

theorem words_round (s : State) (k w : UInt64) :
    (s.round k w).words = s.words.round k.toBitVec w.toBitVec := by
  simp only [round, words, Words.round, UInt64.toBitVec_add, toBitVec_bigSigma0, toBitVec_bigSigma1,
    toBitVec_choose, toBitVec_majority]

theorem words_add (s t : State) : (s.add t).words = s.words.add t.words := rfl

/-- The rounds with a list of constants and words. -/
theorem words_rounds (s : State) (kws : List (UInt64 × UInt64)) :
    (kws.foldl (fun t kw => t.round kw.1 kw.2) s).words =
      (kws.map (Prod.map UInt64.toBitVec UInt64.toBitVec)).foldl (fun v kw => v.round kw.1 kw.2)
        s.words := by
  induction kws generalizing s with
  | nil => rfl
  | cons kw kws ih =>
    rw [List.foldl_cons, ih, words_round, List.map_cons, List.foldl_cons]
    rfl

/-- The constants and the words are those of the standard, and so is what they are compressed into. -/
theorem words_compress (s : State) (block : Bytes) :
    (s.compress block).words = s.words.compress (.ofBytes block) := by
  have hzip : (roundConstants.zip (schedule block 80).toList).map
      (Prod.map UInt64.toBitVec UInt64.toBitVec) =
      (List.range 80).map fun t => (roundConstant t, scheduleWord (.ofBytes block) t) := by
    rw [← List.zip_map, ← map_roundConstant, map_toBitVec_schedule, List.zip_map']
  rw [compress, words_add, words_rounds, hzip, List.foldl_map, Words.compress]

/-- Compressing blocks in two runs. -/
theorem compressBlocks_add (s : State) (m n : ℕ) (bs : Bytes) :
    s.compressBlocks (m + n) bs =
      (s.compressBlocks m bs).compressBlocks n (bs.drop (blockSize * m)) := by
  induction m generalizing s bs with
  | zero => rw [zero_add, Nat.mul_zero, List.drop_zero, compressBlocks]
  | succ m ih =>
    have hplace : blockSize * (m + 1) = blockSize + blockSize * m := by ring
    rw [Nat.succ_add, compressBlocks, ih, compressBlocks, List.drop_drop, hplace]

/-- One more block. -/
theorem compressBlocks_succ (s : State) (n : ℕ) (bs : Bytes) :
    s.compressBlocks (n + 1) bs =
      (s.compressBlocks n bs).compress ((bs.drop (blockSize * n)).take blockSize) :=
  compressBlocks_add s n 1 bs

theorem words_compressBlocks (s : State) (n : ℕ) (bs : Bytes) :
    (s.compressBlocks n bs).words =
      (List.range n).foldl (fun v i => v.compress (Bitwise.block (.ofBytes bs) i)) s.words := by
  induction n with
  | zero => rfl
  | succ n ih =>
    have hblock : Bitwise.block (.ofBytes bs) n =
        .ofBytes ((bs.drop (blockSize * n)).take blockSize) := by
      have hplace : 1024 * n = 8 * (blockSize * n) := by
        rw [blockSize]
        omega
      rw [Bitwise.block, hplace, Bits.drop_ofBytes]
      exact Bits.take_ofBytes _ blockSize
    rw [compressBlocks_succ, words_compress, ih, List.range_succ, List.foldl_concat, hblock]

theorem bits_toOctets (s : State) : Bits.ofBytes s.toOctets.bytes = s.words.bits := by
  simp [toOctets, Words.bits, words, Bits.ofBytes_ofNatBE]

end State

/-! ## Padding -/

/-- The zeros in the first byte of the padding and those after it are the least number of zeros. -/
theorem zeros_eq (n : ℕ) : zeros (8 * n) = 8 * paddingZeros n + 7 := by
  rw [zeros, Nat.find_eq_iff, paddingZeros]
  exact ⟨by omega, fun k hk => by omega⟩

theorem ofBytes_zeros (n : ℕ) : Bits.ofBytes (List.replicate n 0) = List.replicate (8 * n) false := by
  induction n with
  | zero => rfl
  | succ n ih =>
    rw [List.replicate_succ, Bits.ofBytes_cons, ih, Nat.mul_succ, add_comm, List.replicate_add]
    rfl

theorem ofBytes_pad (message : Bytes) :
    Bits.ofBytes (pad message) = Bitwise.pad (.ofBytes message) := by
  have hfirst : Bits.ofNat 8 (0x80 : UInt8).toNat = true :: List.replicate 7 false := rfl
  rw [pad, padding, Bits.ofBytes_append, Bits.ofBytes_cons, Bits.ofBytes_append, ofBytes_zeros,
    Bits.ofBytes_ofNatBE, hfirst, Bitwise.pad, Bits.length_ofBytes, zeros_eq, add_comm,
    List.replicate_add]
  simp

/-! ## Digests -/

/-- The bits of the digest of a byte string are the digest of its bits. -/
theorem bits_digest (message : Bytes) :
    Bits.ofBytes (digest message).bytes = Bitwise.digest (.ofBytes message) := by
  have hcount : (Bits.ofBytes (pad message)).length / 1024 = blockCount (pad message) := by
    rw [Bits.length_ofBytes, blockCount, blockSize]
    omega
  rw [digest, State.bits_toOctets, State.words_compressBlocks, words_initial, Bitwise.digest,
    ← ofBytes_pad, hcount]

end EdwardsSignature.Sha512
