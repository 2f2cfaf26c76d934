import ViewStyle.Text.Ranges

/-!
# Blank characters and trimming

Blanks are the 25 characters of the Unicode `White_Space` property. Trimming removes
them from both ends of a text and keeps those inside.
-/

set_option autoImplicit false

namespace ViewStyle.Text

/-- The ranges of blank characters, ends included, in ascending order. -/
def blankRanges : List (Nat × Nat) := [
  (0x0009, 0x000D), (0x0020, 0x0020), (0x0085, 0x0085), (0x00A0, 0x00A0), (0x1680, 0x1680),
  (0x2000, 0x200A), (0x2028, 0x2029), (0x202F, 0x202F), (0x205F, 0x205F), (0x3000, 0x3000)]

def isBlank (c : Char) : Bool := inRanges blankRanges c

/-- The characters left when the blanks at both ends are removed. -/
def trimBlanks (cs : List Char) : List Char :=
  ((cs.dropWhile isBlank).reverse.dropWhile isBlank).reverse

def trim (s : String) : String := String.ofList (trimBlanks s.toList)

/-- A text with the capitals among the 26 Latin letters made small, and nothing else changed. -/
def lowerLatin (s : String) : String := String.ofList (s.toList.map Char.toLower)

end ViewStyle.Text
