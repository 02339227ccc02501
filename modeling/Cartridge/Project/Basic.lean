import Cartridge.Project.Scene

/-!
# Projects

A project is everything the author of a game made: settings, scenes, custom events, variables and
assets.  It is the compiler's input and is never changed.
-/

namespace Cartridge

namespace Project

/-- A script with parameters that other scripts call. -/
structure CustomEvent where
  id : String := ""
  name : String := ""
  symbol : String := ""
  script : List Script.Event := []

/-- A variable of the game. -/
structure Variable where
  id : String := ""
  name : String := ""
  symbol : String := ""

/-- A named number. -/
structure Constant where
  id : String := ""
  name : String := ""
  symbol : String := ""
  value : Int32 := 0

end Project

open Project

/-- A game project. -/
structure Project where
  metadata : Metadata := {}
  settings : Settings := {}
  scenes : List Scene := []
  customEvents : List CustomEvent := []
  vars : List Variable := []
  constants : List Constant := []
  palettes : List Palette := []
  sprites : List SpriteSheet := []
  backgrounds : List Background := []
  tilesets : List Asset := []
  fonts : List Asset := []
  avatars : List Asset := []
  emotes : List Asset := []
  music : List Track := []
  sounds : List Track := []

namespace Project

/-- The game runs on colour hardware only. -/
def isColorOnly (project : Project) : Bool :=
  project.settings.colorMode == .color

/-- The custom event with an id; of several the last one counts. -/
def customEvent? (events : List CustomEvent) (id : String) : Option CustomEvent :=
  events.reverse.find? (·.id == id)

end Project

end Cartridge
