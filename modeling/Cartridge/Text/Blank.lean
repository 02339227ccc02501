import Cartridge.Text.RangeTable

/-!
# White space and control characters

White space is the set of characters that separate words in any script, the line breaks
included.  Zero-width characters are not white space.
-/

namespace Cartridge.Text

/-- The characters that count as blanks. -/
def blankRanges : RangeTable := #[
  (0x9, 0xD), (0x20, 0x20), (0x85, 0x85), (0xA0, 0xA0), (0x1680, 0x1680), (0x2000, 0x200A),
  (0x2028, 0x2029), (0x202F, 0x202F), (0x205F, 0x205F), (0x3000, 0x3000)]

/-- A blank. -/
def isBlank (c : Char) : Bool :=
  blankRanges.contains c

/-- Control characters: the two blocks of sixty-five code points that carry no glyph. -/
def isControl (c : Char) : Bool :=
  c.toNat < 0x20 || (0x7F ≤ c.toNat && c.toNat < 0xA0)

/-- Characters without the blanks at both ends. -/
def trimChars (cs : List Char) : List Char :=
  ((cs.dropWhile isBlank).reverse.dropWhile isBlank).reverse

/-- Drops white space from both ends of a text. -/
def trim (s : String) : String :=
  String.ofList (trimChars s.toList)

/-- A text without the blanks at its start. -/
def trimStart (s : String) : String :=
  String.ofList (s.toList.dropWhile isBlank)

end Cartridge.Text
