import Cartridge.Project.Settings
import Cartridge.Text.Pieces

/-!
# The script of the web player

The script assigns the name of the image and the number of a colour curve.  Every assignment gets
the value of the project.
-/

namespace Cartridge.Web

open Cartridge.Project (ColorCorrection)

/-- Replaces the value behind every mark, of which there are at most `room`. -/
def assignFrom (mark value : List Char) (inValue : Char → Bool) :
    (room : Nat) → List Char → List Char
  | 0, text => text
  | room + 1, text =>
    match Text.breakAt? mark text with
    | none => text
    | some (before, after) =>
      before ++ mark ++ value ++ assignFrom mark value inValue room (after.dropWhile inValue)

/-- Replaces the value behind every mark in a text. -/
def assign (mark value : String) (inValue : Char → Bool) (text : String) : String :=
  String.ofList
    (assignFrom mark.toList value.toList inValue (text.length + 1) text.toList)

/-- The number of a correction of colours. -/
def curveNumber : ColorCorrection → String
  | .standard => "2"
  | .off => "0"

/-- What stands before the name of the image. -/
def imageMark : String := "ROM_FILENAME = \""

/-- What stands before the correction of colours. -/
def curveMark : String := "CGB_COLOR_CURVE = "

/-- The player's script with the image and the correction put in, one after the other. -/
def fillScript (script image : String) (correction : ColorCorrection) : String :=
  assign curveMark (curveNumber correction) Char.isDigit
    (assign imageMark ("rom/" ++ image) (· != '"') script)

end Cartridge.Web
