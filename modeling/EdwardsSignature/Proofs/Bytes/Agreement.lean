import EdwardsSignature.Bytes.Agreement

/-!
# Agreement is equality

The differences at all positions are collected in one byte, which is `0` if and only if there is no
position with a difference (`Bytes.collected_eq_zero_iff`). So the verdict on two byte strings is `1` if
they are equal and `0` if they are not (`Bytes.agreement_eq`), also when their lengths differ, and they
agree exactly if they are equal (`Bytes.agree_iff`).

A verdict can be formed the other way around as well, from what is the same and not from what differs:
each two bytes at one position have a verdict, and all the verdicts are combined
(`Bytes.bytewiseAgreement`). For byte strings of one length it comes to the same
(`Bytes.agreement_eq_bytewiseAgreement`).
-/

namespace EdwardsSignature

namespace Bytes

/-! ## Collecting differences -/

/-- For byte strings of one length, no bit is collected beyond those of the byte `d` that the way
    starts with if and only if they are equal. -/
theorem collected_eq_zero_iff {as bs : Bytes} (hlen : as.length = bs.length) (d : UInt8) :
    (as.zip bs).foldl (fun d ab => d ||| (ab.1 ^^^ ab.2)) d = 0 ↔ d = 0 ∧ as = bs := by
  induction as generalizing bs d with
  | nil =>
    obtain rfl : bs = [] := List.length_eq_zero_iff.1 hlen.symm
    simp
  | cons a as ih =>
    cases bs with
    | nil => cases hlen
    | cons b bs =>
      rw [List.zip_cons_cons, List.foldl_cons, ih (Nat.succ.inj hlen), UInt8.or_eq_zero_iff,
        UInt8.xor_eq_zero_iff, List.cons.injEq, and_assoc]

theorem difference_eq_zero_iff {as bs : Bytes} (hlen : as.length = bs.length) :
    difference as bs = 0 ↔ as = bs :=
  (collected_eq_zero_iff hlen 0).trans (and_iff_right rfl)

/-- The verdict as a bit. -/
theorem agreement_eq (as bs : Bytes) : agreement as bs = if as = bs then 1 else 0 := by
  rw [agreement]
  split
  · next hlen => simp only [difference_eq_zero_iff hlen]
  · next hlen => exact (if_neg fun h => hlen (congrArg List.length h)).symm

theorem agreement_eq_one_iff (as bs : Bytes) : agreement as bs = 1 ↔ as = bs := by
  rw [agreement_eq]
  split
  · next h => exact iff_of_true rfl h
  · next h => exact iff_of_false (by decide) h

theorem agreement_eq_zero_iff (as bs : Bytes) : agreement as bs = 0 ↔ as ≠ bs := by
  rw [agreement_eq]
  split
  · next h => exact iff_of_false (by decide) (not_not_intro h)
  · next h => exact iff_of_true rfl h

/-- Byte strings agree exactly if they are equal. -/
theorem agree_iff (as bs : Bytes) : agree as bs = true ↔ as = bs := by
  rw [agree, beq_iff_eq, agreement_eq_one_iff]

/-! ## Combining verdicts -/

/-- The verdict on byte strings of one length that is combined of the verdicts on the bytes at all
    positions, each `1` or `0`. -/
def bytewiseAgreement (as bs : Bytes) : UInt8 :=
  (as.zip bs).foldl (fun v ab => v &&& if ab.1 = ab.2 then 1 else 0) 1

/-- For byte strings of one length, the verdict `v` that the way starts with is kept if they are equal,
    and lost if they are not. -/
theorem combined_eq {as bs : Bytes} (hlen : as.length = bs.length) {v : UInt8} (hv : v &&& 1 = v) :
    (as.zip bs).foldl (fun v ab => v &&& if ab.1 = ab.2 then 1 else 0) v =
      if as = bs then v else 0 := by
  induction as generalizing bs v with
  | nil =>
    obtain rfl : bs = [] := List.length_eq_zero_iff.1 hlen.symm
    rfl
  | cons a as ih =>
    cases bs with
    | nil => cases hlen
    | cons b bs =>
      rw [List.zip_cons_cons, List.foldl_cons]
      by_cases h : a = b
      · subst h
        rw [if_pos rfl, hv, ih (Nat.succ.inj hlen) hv]
        simp only [List.cons_inj_right]
      · -- The verdict is lost here, and stays so whatever follows.
        rw [if_neg h, UInt8.and_zero, ih (Nat.succ.inj hlen) UInt8.zero_and, ite_self,
          if_neg fun hab => h (List.cons.inj hab).1]

/-- Collecting differences and combining verdicts come to the same. -/
theorem agreement_eq_bytewiseAgreement {as bs : Bytes} (hlen : as.length = bs.length) :
    agreement as bs = bytewiseAgreement as bs := by
  rw [agreement_eq, bytewiseAgreement, combined_eq hlen rfl]

end Bytes

/-- Octets agree exactly if they are equal. -/
theorem Octets.agree_iff {n : Nat} (o o' : Octets n) : o.agree o' = true ↔ o = o' := by
  rw [agree, Bytes.agree_iff]
  exact ⟨ext_bytes, congrArg bytes⟩

end EdwardsSignature
