import Cartridge.Build.Product
import Cartridge.Project.Settings

/-!
# Hardware features

What a build asks of the hardware, from the settings of the project.
-/

namespace Cartridge.Build

open Cartridge.Project (Settings ColorMode Controller MusicDriver)

/-- The features of one build. -/
structure Features where
  platform : Platform
  colorMode : ColorMode
  sgb : Bool
  batteryless : Bool
  controller : Controller
  musicDriver : MusicDriver
  preset : UInt32
  debug : Bool

namespace Features

/-- The features of a product; browsers have no cartridge to save to. -/
def ofSettings (settings : Settings) (product : Product) (debug : Bool) : Features where
  platform := product.platform
  colorMode := settings.colorMode
  sgb := settings.sgbActive
  batteryless := settings.batteryless && product != .web
  controller := settings.controller
  musicDriver := settings.musicDriver
  preset := settings.compilerPreset
  debug := debug

/-- The game uses colour. -/
def color (features : Features) : Bool :=
  features.colorMode != .mono

/-- The game runs on colour hardware only. -/
def colorOnly (features : Features) : Bool :=
  features.colorMode == .color

/-- The bit of the cartridge that turns its motor on. -/
def rumbleBit (features : Features) : String :=
  match features.controller with
  | .mbc3 => "0x20"
  | .mbc5 => "0x08"

/-- The name of the memory controller for the tools. -/
def controllerName (features : Features) : String :=
  match features.controller with
  | .mbc3 => "mbc3"
  | .mbc5 => "mbc5"

/-- The name of the colour mode for the tools. -/
def colorModeName (features : Features) : String :=
  match features.colorMode with
  | .mono => "mono"
  | .mixed => "mixed"
  | .color => "color"

end Features

end Cartridge.Build
