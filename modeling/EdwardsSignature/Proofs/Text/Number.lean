import EdwardsSignature.Text.Structural
import Mathlib.Tactic

/-!
# Numbers in text

Numbers are written in digits, to a base of at most sixteen, and no two of them are written alike
(`Text.toDigits_injective`). In the midst of a text, a number goes up to the first character that is
not a digit, so that the number can be told, and so can what comes after it
(`Text.toDigits_append_inj`). For decimal numbers that are put into sentences, these are
`Text.Structural.number_injective` and `Text.Structural.number_append_inj`.
-/

namespace EdwardsSignature.Text

/-- The digits, in all bases up to sixteen. -/
def digits : List Char := (List.range 16).map Nat.digitChar

theorem digitChar_mem_digits {d : ℕ} (hd : d < 16) : d.digitChar ∈ digits :=
  List.mem_map_of_mem (List.mem_range.2 hd)

theorem digitChar_inj {d d' : ℕ} (hd : d < 16) (hd' : d' < 16)
    (h : d.digitChar = d'.digitChar) : d = d' := by
  have hall : ∀ d < 16, ∀ d' < 16, d.digitChar = d'.digitChar → d = d' := by decide
  exact hall d hd d' hd' h

section

variable {base m n : ℕ} (hbase : 1 < base) (hle : base ≤ 16)

include hbase hle

theorem mem_digits_of_mem_toDigits {c : Char} (hc : c ∈ Nat.toDigits base n) : c ∈ digits := by
  induction n using Nat.strong_induction_on with
  | _ n ih =>
    rw [Nat.toDigits_eq_if hbase] at hc
    split at hc
    · next hlt =>
      obtain rfl := List.mem_singleton.1 hc
      exact digitChar_mem_digits (hlt.trans_le hle)
    · next hge =>
      rcases List.mem_append.1 hc with hc | hc
      · exact ih _ (Nat.div_lt_self (by omega) hbase) hc
      · obtain rfl := List.mem_singleton.1 hc
        exact digitChar_mem_digits ((Nat.mod_lt n (by omega)).trans_le hle)

/-- No two numbers are written alike. -/
theorem toDigits_injective : Function.Injective (Nat.toDigits base) := by
  intro m n h
  induction m using Nat.strong_induction_on generalizing n with
  | _ m ih =>
    have hlen := congrArg List.length h
    rw [Nat.toDigits_eq_if hbase, Nat.toDigits_eq_if (n := n) hbase] at h hlen
    split_ifs at h hlen with hmb hnb hnb
    · exact digitChar_inj (hmb.trans_le hle) (hnb.trans_le hle) (List.singleton_inj.1 h)
    -- One digit is not as long as several.
    · simp at hlen
    · simp at hlen
    · obtain ⟨hdiv, hmod⟩ := List.append_inj' h rfl
      have hquot := ih _ (Nat.div_lt_self (by omega) hbase) hdiv
      have hrem := digitChar_inj ((Nat.mod_lt m (by omega)).trans_le hle)
        ((Nat.mod_lt n (by omega)).trans_le hle) (List.singleton_inj.1 hmod)
      rw [← Nat.div_add_mod m base, hquot, hrem, Nat.div_add_mod]

/-- A number ends where a character comes that is not a digit. -/
theorem toDigits_append_inj {c : Char} {xs ys : List Char} (hc : c ∉ digits)
    (h : Nat.toDigits base m ++ c :: xs = Nat.toDigits base n ++ c :: ys) : m = n ∧ xs = ys := by
  -- The digits are what is taken as long as there are digits.
  have htake : ∀ k zs,
      (Nat.toDigits base k ++ c :: zs).takeWhile (· ∈ digits) = Nat.toDigits base k := by
    intro k zs
    have hdigits : ∀ d ∈ Nat.toDigits base k, decide (d ∈ digits) = true := fun d hd =>
      decide_eq_true (mem_digits_of_mem_toDigits hbase hle hd)
    rw [List.takeWhile_append_of_pos hdigits, List.takeWhile_cons_of_neg (by simpa using hc),
      List.append_nil]
  have hdigits : Nat.toDigits base m = Nat.toDigits base n := by
    rw [← htake m xs, h, htake]
  rw [hdigits] at h
  exact ⟨toDigits_injective hbase hle hdigits, List.tail_eq_of_cons_eq (List.append_cancel_left h)⟩

end

/-! ## Decimal numbers -/

namespace Structural

variable {m n : ℕ}

theorem number_injective : Function.Injective number := by
  intro m n h
  exact toDigits_injective (by decide) (by decide) (String.ofList_injective h)

/-- A number in a sentence goes up to what separates it from the rest, if that begins with no digit. -/
theorem number_append_inj {separator s t : String} {c : Char} {cs : List Char}
    (hseparator : separator.toList = c :: cs) (hc : c ∉ digits)
    (h : number m ++ (separator ++ s) = number n ++ (separator ++ t)) : m = n ∧ s = t := by
  have hlist := congrArg String.toList h
  simp only [String.toList_append, number, String.toList_ofList, hseparator,
    List.cons_append] at hlist
  obtain ⟨hnumber, hrest⟩ := toDigits_append_inj (by decide) (by decide) hc hlist
  exact ⟨hnumber, String.toList_inj.1 (List.append_cancel_left hrest)⟩

end Structural

end EdwardsSignature.Text
