import Cartridge.Files.Fault
import Cartridge.Files.Path

/-!
# Errors that stop a compilation

Anything that a game can be built without is a warning instead.
-/

namespace Cartridge.Compile

/-- The texts of what caused an error, the nearest first. -/
abbrev Cause := List String

/-- Why a compilation stopped. -/
inductive Error
  | noScenes
  | missingBackground (scene : String)
  | missingFonts
  | duplicateFile (name : String)
  | encoding (asset : String) (cause : Cause)
  | interrupted
  | io (context : String) (cause : Cause)
  | unreadableProject (cause : Cause)
  /-- A product does not fit its machine word.  The program panics at once. -/
  | overflow
  deriving DecidableEq

/-- The nearest of the causes. -/
def nearest (cause : Cause) : String :=
  cause.head?.getD ""

/-- The text of an error, without causes below the nearest. -/
def Error.message : Error → String
  | .noScenes =>
    "No scenes are included in your project. "
      ++ "Add some scenes in the Game World editor and try again."
  | .missingBackground scene =>
    "Error in scene '" ++ scene ++ "' : has missing or no background assigned."
  | .missingFonts =>
    "No fonts are available. A default font has been added to assets/fonts, "
      ++ "add it to the project and try again."
  | .duplicateFile name => "generated file '" ++ name ++ "' was produced twice"
  | .encoding asset cause => "failed to encode " ++ asset ++ ": " ++ nearest cause
  | .interrupted => "compilation interrupted"
  | .io context cause => context ++ ": " ++ nearest cause
  | .unreadableProject cause => "invalid project data: " ++ nearest cause
  | .overflow => "attempt to multiply with overflow"

/-- What caused an error. -/
def Error.cause : Error → Cause
  | .encoding _ cause => cause
  | .io _ cause => cause
  | .unreadableProject cause => cause
  | _ => []

/-- The error of a fault that an action on a path met. -/
def Error.ofFault (action : String) (path : Files.FilePath) (fault : Files.Fault) : Error :=
  .io ("failed to " ++ action ++ " " ++ path.text) [fault.message]

end Cartridge.Compile
