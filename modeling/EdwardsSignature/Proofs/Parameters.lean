import EdwardsSignature.Parameters
import Mathlib.Data.List.Forall2
import Mathlib.Tactic

/-!
# Looking up curves

The name of a curve is compared without regard to the case of ASCII letters: position by position, the
characters are equal, or are the capital and the small form of one of the letters from A to Z
(`Text.SameButCase`, `Parameters.sameName_iff`). No other character has a second form, whatever Unicode
says of it. So a curve is found by four names and no others (`Parameters.find?_eq_some_iff_mem`).
-/

namespace EdwardsSignature

namespace Text

/-- The characters are the capital and the small form of an ASCII letter. -/
def IsCapitalOf (c d : Char) : Prop := 65 ≤ c.toNat ∧ c.toNat ≤ 90 ∧ d.toNat = c.toNat + 32

instance (c d : Char) : Decidable (IsCapitalOf c d) := inferInstanceAs (Decidable (_ ∧ _))

/-- The characters are equal, or are the two forms of an ASCII letter. -/
def SameLetter (c d : Char) : Prop := c = d ∨ IsCapitalOf c d ∨ IsCapitalOf d c

/-- The texts are equal but for the case of ASCII letters. -/
def SameButCase (a b : String) : Prop := List.Forall₂ SameLetter a.toList b.toList

variable {c d : Char}

/-- Capitals from A to Z, and only they, become other characters in lower case. -/
theorem toNat_toLower (c : Char) :
    c.toLower.toNat = if 65 ≤ c.toNat ∧ c.toNat ≤ 90 then c.toNat + 32 else c.toNat := by
  have hcapital : 'A'.val ≤ c.val ∧ c.val ≤ 'Z'.val ↔ 65 ≤ c.toNat ∧ c.toNat ≤ 90 := by
    rw [UInt32.le_iff_toNat_le, UInt32.le_iff_toNat_le]
    rfl
  unfold Char.toLower
  split
  · next h =>
    have hbounds := hcapital.1 h
    rw [if_pos hbounds, Char.toNat, UInt32.toNat_add]
    change (c.toNat + 32) % 2 ^ 32 = c.toNat + 32
    omega
  · next h => rw [if_neg (mt hcapital.2 h)]

/-- Characters are the same in lower case if they are the same letter. -/
theorem toLower_eq_toLower_iff : c.toLower = d.toLower ↔ SameLetter c d := by
  rw [SameLetter, IsCapitalOf, IsCapitalOf, ← Char.toNat_inj, ← Char.toNat_inj, toNat_toLower,
    toNat_toLower]
  split_ifs <;> omega

/-- A small letter has one other form. -/
theorem SameLetter.eq_or_eq {capital : Char} (h : SameLetter c d) (hc : IsCapitalOf capital c) :
    d = c ∨ d = capital := by
  rw [SameLetter, IsCapitalOf, IsCapitalOf, ← Char.toNat_inj] at h
  rw [IsCapitalOf] at hc
  rw [← Char.toNat_inj, ← Char.toNat_inj]
  omega

/-- What comes before the letters has no other form. -/
theorem SameLetter.eq_of_lt (h : SameLetter c d) (hc : c.toNat < 65) : d = c := by
  rw [SameLetter, IsCapitalOf, IsCapitalOf, ← Char.toNat_inj] at h
  rw [← Char.toNat_inj]
  omega

end Text

namespace Parameters

open Text (SameButCase)

/-- The names are compared without regard to case, and with regard to all else. -/
theorem sameName_iff {a b : String} : sameName a b = true ↔ SameButCase a b := by
  rw [sameName, beq_iff_eq, ← List.forall₂_eq_eq_eq, List.forall₂_map_left_iff,
    List.forall₂_map_right_iff, SameButCase]
  simp only [Text.toLower_eq_toLower_iff]

/-- There is one curve, and it is found by its name in any case. -/
theorem find?_eq_some_iff {name : String} {curve : Parameters} :
    find? name = some curve ↔ SameButCase "ed25519" name ∧ curve = .ed25519 := by
  rw [find?, table, List.find?_singleton, ← sameName_iff]
  split
  · next h => exact ⟨fun h' => ⟨h, (Option.some_inj.1 h').symm⟩, fun h' => congrArg some h'.2.symm⟩
  · next h => exact iff_of_false (Option.some_ne_none _).symm fun h' => h h'.1

/-- The name of the curve has two letters, and so it has four forms. -/
theorem find?_eq_some_iff_mem {name : String} :
    find? name = some .ed25519 ↔ name ∈ ["ed25519", "Ed25519", "eD25519", "ED25519"] := by
  constructor
  · intro h
    obtain ⟨cs, rfl⟩ : ∃ cs, String.ofList cs = name := ⟨name.toList, String.ofList_toList⟩
    have hletters : List.Forall₂ Text.SameLetter ['e', 'd', '2', '5', '5', '1', '9']
        (String.ofList cs).toList := (find?_eq_some_iff.1 h).1
    rw [String.toList_ofList] at hletters
    obtain _ | ⟨he, _ | ⟨hd, _ | ⟨h₂, _ | ⟨h₅, _ | ⟨h₅', _ | ⟨h₁, _ | ⟨h₉, _ | _⟩⟩⟩⟩⟩⟩⟩ := hletters
    obtain rfl := h₂.eq_of_lt (by decide)
    obtain rfl := h₅.eq_of_lt (by decide)
    obtain rfl := h₅'.eq_of_lt (by decide)
    obtain rfl := h₁.eq_of_lt (by decide)
    obtain rfl := h₉.eq_of_lt (by decide)
    have hE : Text.IsCapitalOf 'E' 'e' := by decide
    have hD : Text.IsCapitalOf 'D' 'd' := by decide
    rcases he.eq_or_eq hE with rfl | rfl <;> rcases hd.eq_or_eq hD with rfl | rfl <;> decide
  · intro h
    rw [find?_eq_some_iff, ← sameName_iff]
    refine ⟨?_, rfl⟩
    fin_cases h <;> decide

end Parameters

end EdwardsSignature
