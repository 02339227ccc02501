import Cartridge.Text.Lower

/-!
# Identifiers from free text

Names in generated sources are lower-case ASCII letters, digits and underscores.  A text becomes
an identifier by lowering it and turning every run of other characters into one underscore, none
at either end; a digit in front gets the letter `s` before it.
-/

namespace Cartridge.Symbol

/-- ASCII letters and digits.  Lowering leaves no capital ones. -/
def isWordChar (c : Char) : Bool :=
  c.isAlphanum

/-- Joins the word characters of a text by single underscores.  `pending` says that an underscore
is due before the next word character. -/
def joinWords (pending : Bool) : List Char → List Char
  | [] => []
  | c :: rest =>
    if isWordChar c then
      if pending then '_' :: c :: joinWords false rest else c :: joinWords false rest
    else joinWords true rest

/-- The word characters of a text with one underscore for each inner gap. -/
def words (cs : List Char) : List Char :=
  joinWords false (cs.dropWhile fun c => !isWordChar c)

/-- Puts a letter before a leading digit. -/
def guardDigit : List Char → List Char
  | c :: rest => if c.isDigit then 's' :: '_' :: c :: rest else c :: rest
  | [] => []

/-- The identifier of a text, as characters. -/
def identifierChars (cs : List Char) : List Char :=
  guardDigit (words (cs.flatMap Text.lowerChar))

/-- The identifier of a text; empty when the text has no usable character. -/
def identifier (name : String) : String :=
  String.ofList (identifierChars name.toList)

end Cartridge.Symbol
