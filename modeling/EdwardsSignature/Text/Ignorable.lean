import EdwardsSignature.Text.Ranges

/-!
# Ignorable characters

The characters with the property `Default_Ignorable_Code_Point`: where nothing is known about them,
they are not shown at all. Besides controls of the layout and code points that are set apart for
them, they include the fillers of the Hangul alphabet, which are letters that leave no mark. The
table is that of version 17 of the Unicode Character Database.
-/

namespace EdwardsSignature.Text

/-- The ranges of the ignorable characters. -/
def ignorableRanges : Ranges :=
  [(0xad, 0xad), (0x34f, 0x34f), (0x61c, 0x61c), (0x115f, 0x1160), (0x17b4, 0x17b5),
   (0x180b, 0x180f), (0x200b, 0x200f), (0x202a, 0x202e), (0x2060, 0x206f), (0x3164, 0x3164),
   (0xfe00, 0xfe0f), (0xfeff, 0xfeff), (0xffa0, 0xffa0), (0xfff0, 0xfff8), (0x1bca0, 0x1bca3),
   (0x1d173, 0x1d17a), (0xe0000, 0xe0fff)]

example : ignorableRanges.increasing = true := by decide +kernel

/-- The character is ignorable. -/
def isIgnorable (c : Char) : Bool := ignorableRanges.has c.toNat

example : isIgnorable '\u115f' = true ∧ isIgnorable '\u1100' = false := by decide +kernel

end EdwardsSignature.Text
