import Cartridge.Build.Product
import Cartridge.Text.Alphanumeric
import Cartridge.Text.Blank
import Cartridge.Text.Lower
import Cartridge.Text.Pieces
import Cartridge.Text.Upper

/-!
# Names of cartridge images

The file name comes from a name of its own when that has usable characters, and else from the
name of the project.  The title in the header has capital letters only.
-/

namespace Cartridge.Rom

open Cartridge.Build (Product)

/-- Characters that file names cannot hold. -/
def forbiddenChars : List Char :=
  ['<', '>', ':', '"', '/', '\\', '|', '?', '*']

/-- A file name can hold the character. -/
def isUsable (c : Char) : Bool :=
  !forbiddenChars.contains c && !Text.isControl c

/-- The characters of a name that file names may have. -/
def usable (name : String) : String :=
  String.ofList (name.toList.filter isUsable)

/-- Small letters and digits of a name, other characters replaced by single dashes between. -/
def slug (name : String) : String :=
  let words := Text.pieces (fun c => !Text.isAlphanumeric c) (Text.lower name).toList
  Text.joinWith "-" ((words.filter (!·.isEmpty)).map String.ofList)

/-- Endings of image names, in the order in which they are looked for. -/
def imageEndings : List String :=
  [".gb", ".gbc", ".pocket", ".gba"]

/-- The name ends so, in small or capital letters. -/
def hasEnding (name ending : String) : Bool :=
  Text.endsWith ending (String.ofList (name.toList.map Char.toLower))

/-- A name without the ending of an image. -/
def dropEnding (name : String) : String :=
  match imageEndings.find? (hasEnding name) with
  | some ending => String.ofList (name.toList.take (name.length - ending.length))
  | none => name

/-- What a name is made from: the chosen name, or the project's where nothing of that can be used.
-/
def nameSource (chosen project : String) : String :=
  if Text.trim (usable chosen) = "" then slug (Text.trim project) else chosen

/-- The name for images without a usable one. -/
def defaultStem : String := "game"

/-- The file name of an image without its ending. -/
def fileStem (chosen project : String) : String :=
  let stem := Text.trim (dropEnding (Text.trim (usable (nameSource chosen project))))
  if stem.toList.all (· == '-') then defaultStem else stem

/-- The name of the image of a product. -/
def fileName (chosen project : String) (colorOnly : Bool) (product : Product) : String :=
  fileStem chosen project ++ "." ++ product.extension colorOnly

/-! ## The header -/

/-- The length of the title in the header of an image. -/
def titleLength : Nat := 15

/-- The title for projects without letters in their name. -/
def defaultTitle : String := "GBSTUDIO"

/-- The title in the header: the first capital letters of the name in capitals. -/
def headerTitle (name : String) : String :=
  let letters := ((Text.upper name).toList.filter Char.isUpper).take titleLength
  if letters.isEmpty then defaultTitle else String.ofList letters

end Cartridge.Rom
