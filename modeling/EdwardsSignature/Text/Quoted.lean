import EdwardsSignature.Text.GraphemeExtend
import EdwardsSignature.Text.Ignorable
import EdwardsSignature.Text.Unprintable

/-!
# Quoted text

Text is *quoted* between double quotes, so that it can be told where it ends and what it holds. A
quote or a backslash inside gets a backslash in front, a few controls have a letter of their own
behind a backslash, and a character that would not show, or that would be drawn onto the one before
it, is given by its code point. All other characters stand for themselves.
-/

namespace EdwardsSignature.Text.Quoted

/-- The characters with a letter of their own, and these letters. -/
def letters : List (Char × Char) :=
  [('\x00', '0'), ('\t', 't'), ('\r', 'r'), ('\n', 'n'), ('"', '"'), ('\\', '\\')]

/-- The halfwidth voicing marks of Katakana: they extend the character before them, as a matter of
    syllables, but are drawn in a place of their own. -/
def voicingMarks : List Char := ['\uff9e', '\uff9f']

/-- The character is drawn onto the one before it. -/
def isAttached (c : Char) : Bool := isGraphemeExtend c && !voicingMarks.contains c

/-- The character is given by its code point. -/
def isHidden (c : Char) : Bool := isAttached c || isIgnorable c || isUnprintable c

/-- A character by its code point, in hexadecimal digits. -/
def codePoint (c : Char) : List Char :=
  ['\\', 'u', '\x7b'] ++ Nat.toDigits 16 c.toNat ++ ['\x7d']

/-- A character, as it stands between the quotes. -/
def encodeChar (c : Char) : List Char :=
  match letters.lookup c with
  | some letter => ['\\', letter]
  | none => if isHidden c then codePoint c else [c]

/-- Text in quotes, as a list of characters. -/
def encodeList (cs : List Char) : List Char := '"' :: (cs.flatMap encodeChar ++ ['"'])

example : encodeList ['a', '"', '\n', 'é', '\u0301', '\x7f', '\uff9e'] =
    ['"', 'a', '\\', '"', '\\', 'n', 'é', '\\', 'u', '\x7b', '3', '0', '1', '\x7d',
      '\\', 'u', '\x7b', '7', 'f', '\x7d', '\uff9e', '"'] := by decide +kernel

/-- Text in quotes. -/
def encode (s : String) : String := String.ofList (encodeList s.toList)

end EdwardsSignature.Text.Quoted
