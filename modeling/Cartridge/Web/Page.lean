import Cartridge.Json.Printer
import Cartridge.Project.Basic
import Cartridge.Text.Pieces

/-!
# The page of the web player

The page has places for the name, the author, the colours, further headers and the controls of a
project.  They are filled one after another.
-/

namespace Cartridge.Web

open Cartridge.Json

/-- A text without quotes and angle brackets. -/
def sanitized (text : String) : String :=
  String.ofList (text.toList.filter fun c => c != '"' && c != '<' && c != '>')

/-- The keys of the player as the page gets them. -/
def controlsText (controls : Project.Controls) : String :=
  let keys (names : List String) : Value := .array (names.map .string)
  (Value.object [("a", keys controls.a), ("b", keys controls.b), ("down", keys controls.down),
    ("left", keys controls.left), ("right", keys controls.right),
    ("select", keys controls.select), ("start", keys controls.start),
    ("up", keys controls.up)]).compact

/-- The style of the page behind a game with colours. -/
def colorStyle (settings : Project.Settings) : String :=
  if settings.colorMode = .mono then ""
  else
    "<style type=\"text/css\"> body \x7b background-color:#" ++ settings.customColorsBlack ++
      "; \x7d</style>"

/-- The places of the page and what fills them, in order. -/
def fillings (project : Project) : List (String × String) :=
  [("___PROJECT_NAME___", sanitized project.metadata.name),
    ("___AUTHOR___", sanitized project.metadata.author),
    ("___COLORS_HEAD___", colorStyle project.settings),
    ("___PROJECT_HEAD___", project.settings.customHead),
    ("___CUSTOM_CONTROLS___", controlsText project.settings.controls)]

/-- The page with its placeholders filled in, one after the other. -/
def fillPage (page : String) (project : Project) : String :=
  (fillings project).foldl (fun page filling => Text.replace filling.1 filling.2 page) page

end Cartridge.Web
