import EdwardsSignature.Proofs.Sha512.Conformance
import EdwardsSignature.Sha512.Hasher

/-!
# Hashing in pieces

A hasher that has *seen* a message holds the state after its whole blocks, the bytes after them, and
their number (`Hasher.Seen`). The next byte either joins those bytes or completes a block, and in both
cases the hasher has then seen one byte more (`Hasher.Seen.absorb`). What remains to be compressed in the
end is what the padded message has after those blocks, so that the digest is that of the message
(`Hasher.Seen.finish_eq`), however it was cut.

As hashers can be copied, a program may have several of them, and feed them in turn. Each then gives the
digest of what it has itself been fed, and of what its original had been fed before it was copied
(`Hasher.map_finish_run`).
-/

namespace EdwardsSignature.Sha512

/-! ## Blocks of a message that grows -/

/-- Only the blocks that are compressed matter. -/
theorem State.compressBlocks_append (s : State) {n : ℕ} {as : Bytes} (h : blockSize * n ≤ as.length)
    (bs : Bytes) : s.compressBlocks n (as ++ bs) = s.compressBlocks n as := by
  induction n with
  | zero => rfl
  | succ n ih =>
    have hle : blockSize * n + blockSize ≤ as.length := h
    rw [compressBlocks_succ, compressBlocks_succ, ih (by omega), List.drop_append_of_le_length (by omega),
      List.take_append_of_le_length (by rw [List.length_drop]; omega)]

theorem blockSize_mul_blockCount_le (bs : Bytes) : blockSize * blockCount bs ≤ bs.length :=
  Nat.mul_div_le bs.length blockSize

/-- The bytes after the whole blocks. -/
def rest (bs : Bytes) : Bytes := bs.drop (blockSize * blockCount bs)

theorem length_rest (bs : Bytes) : (rest bs).length = bs.length % blockSize := by
  rw [rest, List.length_drop, blockCount]
  exact (Nat.mod_eq_sub bs.length blockSize).symm

/-- What is added after whole blocks comes after the rest. -/
theorem drop_append_eq_rest_append (as bs : Bytes) :
    (as ++ bs).drop (blockSize * blockCount as) = rest as ++ bs :=
  List.drop_append_of_le_length (blockSize_mul_blockCount_le as)

theorem blockCount_append (as bs : Bytes) :
    blockCount (as ++ bs) = blockCount as + blockCount (rest as ++ bs) := by
  have hlen : as.length = blockSize * blockCount as + (rest as).length := by
    rw [length_rest]
    exact (Nat.div_add_mod as.length blockSize).symm
  have hpos : 0 < blockSize := by decide
  rw [blockCount, List.length_append, hlen, add_assoc, Nat.mul_add_div hpos, ← List.length_append]
  rfl

theorem rest_append (as bs : Bytes) : rest (as ++ bs) = rest (rest as ++ bs) := by
  rw [rest, blockCount_append, Nat.mul_add, ← List.drop_drop, drop_append_eq_rest_append]
  rfl

/-- Bytes that make no block are left as they are. -/
theorem rest_of_blockCount_eq_zero {bs : Bytes} (h : blockCount bs = 0) : rest bs = bs := by
  rw [rest, h, Nat.mul_zero, List.drop_zero]

/-- Compressing what there is of a message, and then the blocks that its rest makes with more bytes. -/
theorem State.compressBlocks_blockCount_append (s : State) (as bs : Bytes) :
    s.compressBlocks (blockCount (as ++ bs)) (as ++ bs) =
      (s.compressBlocks (blockCount as) as).compressBlocks (blockCount (rest as ++ bs))
        (rest as ++ bs) := by
  rw [blockCount_append, compressBlocks_add, compressBlocks_append s (blockSize_mul_blockCount_le as),
    drop_append_eq_rest_append]

namespace Hasher

/-! ## What a hasher has seen -/

/-- The hasher has seen the message `m`. -/
structure Seen (h : Hasher) (m : Bytes) : Prop where
  state_eq : h.state = State.initial.compressBlocks (blockCount m) m
  pending_eq : h.pending.toList = rest m
  count_eq : h.count = m.length

variable {h : Hasher} {m : Bytes}

theorem seen_empty : empty.Seen [] := ⟨rfl, rfl, rfl⟩

/-- A byte that joins the pending ones, or completes a block with them. -/
theorem Seen.absorb (hm : h.Seen m) (b : UInt8) : (h.absorb b).Seen (m ++ [b]) := by
  have hsize : (rest m ++ [b]).length = h.pending.size + 1 := by
    rw [← hm.pending_eq, List.length_append, Array.length_toList, List.length_singleton]
  have hcount : h.count + 1 = (m ++ [b]).length := by
    rw [hm.count_eq, List.length_append, List.length_singleton]
  have hpush : (h.pending.push b).toList = rest m ++ [b] := by
    rw [Array.toList_push, hm.pending_eq]
  have hstate := State.initial.compressBlocks_blockCount_append m [b]
  rw [← hm.state_eq] at hstate
  rw [Hasher.absorb]
  split_ifs with hlt
  · have hnone : blockCount (rest m ++ [b]) = 0 := by
      rw [blockCount, hsize, Nat.div_eq_of_lt hlt]
    refine ⟨?_, ?_, hcount⟩
    · rw [hstate, hnone, State.compressBlocks]
    · rw [hpush, rest_append, rest_of_blockCount_eq_zero hnone]
  · have hfull : (rest m ++ [b]).length = blockSize := by
      have := h.size_pending_lt
      omega
    have hone : blockCount (rest m ++ [b]) = 1 := by
      rw [blockCount, hfull]
      rfl
    refine ⟨?_, ?_, hcount⟩
    · rw [hstate, hone, hpush, State.compressBlocks, State.compressBlocks,
        List.take_of_length_le hfull.le]
    · have hempty : rest (rest m ++ [b]) = [] := by
        apply List.eq_nil_of_length_eq_zero
        rw [length_rest, hfull, Nat.mod_self]
      rw [rest_append, hempty]

theorem Seen.update (hm : h.Seen m) (bs : Bytes) : (h.update bs).Seen (m ++ bs) := by
  induction bs generalizing h m with
  | nil => rwa [List.append_nil]
  | cons b bs ih =>
    have hcons : m ++ b :: bs = m ++ [b] ++ bs := List.append_cons m b bs
    rw [hcons]
    exact ih (hm.absorb b)

/-- The digest is that of the message. -/
theorem Seen.finish_eq (hm : h.Seen m) : h.finish = digest m := by
  have hpad := State.initial.compressBlocks_blockCount_append m (padding m.length)
  rw [finish, digest, hm.pending_eq, hm.count_eq, hm.state_eq, pad, hpad]

/-- Feeding pieces one after the other. -/
theorem foldl_update (h : Hasher) (pieces : List Bytes) :
    pieces.foldl update h = h.update pieces.flatten := by
  induction pieces generalizing h with
  | nil => rfl
  | cons piece pieces ih => rw [List.foldl_cons, ih, List.flatten_cons, update_append]

theorem Seen.foldl_update (hm : h.Seen m) (pieces : List Bytes) :
    (pieces.foldl Hasher.update h).Seen (m ++ pieces.flatten) := by
  rw [Hasher.foldl_update]
  exact hm.update pieces.flatten

/-! ## Several hashers -/

/-- A call, with the hasher that it is applied to given by its place. -/
inductive Call where
  /-- A new hasher. -/
  | start
  /-- A copy of a hasher. -/
  | copy (i : ℕ)
  /-- Feeds bytes to a hasher. -/
  | update (i : ℕ) (bs : Bytes)

/-- The hashers after a call. -/
def step (hs : List Hasher) : Call → List Hasher
  | .start => hs ++ [empty]
  | .copy i => hs ++ hs[i]?.toList
  | .update i bs => hs.modify i (·.update bs)

/-- What the hashers have seen after a call, given what they had seen before. -/
def stepSeen (ms : List Bytes) : Call → List Bytes
  | .start => ms ++ [[]]
  | .copy i => ms ++ ms[i]?.toList
  | .update i bs => ms.modify i (· ++ bs)

/-- The hashers after a history of calls. -/
def run (calls : List Call) : List Hasher := calls.foldl step []

/-- What the hashers have seen in a history of calls. -/
def runSeen (calls : List Call) : List Bytes := calls.foldl stepSeen []

/-- After a call, all hashers have seen what they should have, if they had before it. -/
theorem forall₂_step {hs : List Hasher} {ms : List Bytes} (h : List.Forall₂ Seen hs ms) (call : Call) :
    List.Forall₂ Seen (step hs call) (stepSeen ms call) := by
  cases call with
  | start => exact List.rel_append h (.cons seen_empty .nil)
  | copy i =>
    refine List.rel_append h ?_
    induction h generalizing i with
    | nil => exact .nil
    | cons hm _ ih =>
      cases i with
      | zero => exact .cons hm .nil
      | succ i => exact ih i
  | update i bs =>
    rw [step, stepSeen]
    induction h generalizing i with
    | nil =>
      rw [List.modify_nil, List.modify_nil]
      exact .nil
    | cons hm hms ih =>
      cases i with
      | zero => exact .cons (hm.update bs) hms
      | succ i => exact .cons hm (ih i)

theorem forall₂_run (calls : List Call) : List.Forall₂ Seen (run calls) (runSeen calls) := by
  have hfoldl {hs : List Hasher} {ms : List Bytes} (h : List.Forall₂ Seen hs ms) :
      List.Forall₂ Seen (calls.foldl step hs) (calls.foldl stepSeen ms) := by
    induction calls generalizing hs ms with
    | nil => exact h
    | cons call calls ih => exact ih (forall₂_step h call)
  exact hfoldl .nil

/-- Each hasher gives the digest of what it has seen. -/
theorem map_finish_run (calls : List Call) : (run calls).map finish = (runSeen calls).map digest := by
  rw [← List.forall₂_eq_eq_eq, List.forall₂_map_left_iff, List.forall₂_map_right_iff]
  exact (forall₂_run calls).imp fun _ _ hm => hm.finish_eq

/-- A hasher and its copy, each continued in its own way. -/
example (m x x' : Bytes) :
    runSeen [.start, .update 0 m, .copy 0, .update 1 x, .update 0 x'] = [m ++ x', m ++ x] := rfl

end Hasher

/-! ## Digests of messages in pieces -/

/-- However a message is cut, all at once or piece by piece, its digest is the one of the standard. A
    hasher that has been fed a message can be continued in several ways, each of which gives the digest
    of the message and what it was continued with; and when hashers are copied and fed in turn, none
    gets in the way of another. -/
theorem digest_of_pieces :
    (∀ pieces : List Bytes,
      digestOf pieces = digest pieces.flatten ∧
      (pieces.foldl Hasher.update .empty).finish = digest pieces.flatten ∧
      Bits.ofBytes (digest pieces.flatten).bytes = Bitwise.digest (.ofBytes pieces.flatten)) ∧
    (∀ pieces more more' : List Bytes, let h := pieces.foldl Hasher.update .empty
      (more.foldl Hasher.update h).finish = digest (pieces.flatten ++ more.flatten) ∧
      (more'.foldl Hasher.update h).finish = digest (pieces.flatten ++ more'.flatten)) ∧
    ∀ calls, (Hasher.run calls).map Hasher.finish = (Hasher.runSeen calls).map digest := by
  have hseen (pieces : List Bytes) : (pieces.foldl Hasher.update .empty).Seen pieces.flatten :=
    Hasher.seen_empty.foldl_update pieces
  refine ⟨fun pieces => ?_, fun pieces more more' => ?_, Hasher.map_finish_run⟩
  · have hfinish := (hseen pieces).finish_eq
    exact ⟨hfinish, hfinish, bits_digest pieces.flatten⟩
  · have hmore (more : List Bytes) := ((hseen pieces).foldl_update more).finish_eq
    exact ⟨hmore more, hmore more'⟩

end EdwardsSignature.Sha512
