import Parley.Text.Ranges

/-!
# Blank characters

The characters with the property White_Space, and trimming by them.
-/

namespace Parley.Text

/-- The characters with the property White_Space. -/
def blankRanges : Ranges := [
  (0x9, 0xd), (0x20, 0x20), (0x85, 0x85), (0xa0, 0xa0), (0x1680, 0x1680), (0x2000, 0x200a),
  (0x2028, 0x2029), (0x202f, 0x202f), (0x205f, 0x205f), (0x3000, 0x3000)]

/-- A character with the property White_Space. -/
def isBlank (c : Char) : Bool := blankRanges.contains c

/-- Remove blank characters from the front. -/
def trimLeft (cs : List Char) : List Char := cs.dropWhile isBlank

/-- Remove blank characters from the end. -/
def trimRight (cs : List Char) : List Char := (cs.reverse.dropWhile isBlank).reverse

/-- Remove blank characters from both ends. -/
def trim (s : String) : String := String.ofList (trimRight (trimLeft s.toList))

/-- A text of blank characters only. -/
def isBlankText (s : String) : Bool := s.toList.all isBlank

end Parley.Text
