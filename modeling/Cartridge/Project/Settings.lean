import Cartridge.Decimal.Binary
import Cartridge.Digest.Call

/-!
# Project settings

What the author of a game chose for the whole project, with the values used where nothing was
chosen.
-/

namespace Cartridge.Project

open Cartridge.Decimal

/-- Which colour hardware the game is made for. -/
inductive ColorMode
  | mono
  | mixed
  | color
  deriving DecidableEq

/-- The memory controller of the cartridge. -/
inductive Controller
  | mbc3
  | mbc5
  deriving DecidableEq

/-- The program that plays music. -/
inductive MusicDriver
  | gbtPlayer
  | hugeTracker
  deriving DecidableEq

namespace MusicDriver

/-- The name of a driver for the tools. -/
def define : MusicDriver → String
  | .gbtPlayer => "GBT_PLAYER"
  | .hugeTracker => "HUGE_TRACKER"

/-- The driver that is not used. -/
def other : MusicDriver → MusicDriver
  | .gbtPlayer => .hugeTracker
  | .hugeTracker => .gbtPlayer

end MusicDriver

/-- The size of hardware sprites. -/
inductive SpriteMode
  | square
  | tall
  deriving DecidableEq

/-- The name of a sprite mode. -/
def SpriteMode.name : SpriteMode → String
  | .square => "8x8"
  | .tall => "8x16"

instance : Digest.Digestible SpriteMode := ⟨fun mode => [.text mode.name]⟩

/-- Whether the web player imitates the colours of the hardware's display. -/
inductive ColorCorrection
  | standard
  | off
  deriving DecidableEq

/-- The title page of a project. -/
structure Metadata where
  name : String := ""
  author : String := ""
  notes : String := ""

/-- The keys of the web player that stand for each button. -/
structure Controls where
  up : List String := ["ArrowUp", "w"]
  down : List String := ["ArrowDown", "s"]
  left : List String := ["ArrowLeft", "a"]
  right : List String := ["ArrowRight", "d"]
  a : List String := ["Alt", "z", "j"]
  b : List String := ["Control", "k", "x"]
  start : List String := ["Enter"]
  select : List String := ["Shift"]

/-- Settings of the whole project. -/
structure Settings where
  colorMode : ColorMode := .mono
  sgbEnabled : Bool := false
  controller : Controller := .mbc5
  musicDriver : MusicDriver := .gbtPlayer
  batteryless : Bool := false
  compilerPreset : UInt32 := 3000
  spriteMode : SpriteMode := .tall
  defaultBackgroundPaletteIds : List String := []
  defaultSpritePaletteIds : List String := []
  /-- The player's sprite sheet for each type of scene, in increasing order of the types. -/
  defaultPlayerSprites : List (String × String) := []
  defaultFontId : String := ""
  startSceneId : String := ""
  startX : Int32 := 0
  startY : Int32 := 0
  startDirection : String := "down"
  /-- A number of the single format. -/
  startMoveSpeed : Rounded := Format.single.round false 1 1
  startAnimSpeed : UInt32 := 15
  romFilename : String := ""
  debuggerEnabled : Bool := false
  colorCorrection : ColorCorrection := .standard
  customHead : String := ""
  customColorsBlack : String := "081820"
  controls : Controls := {}

namespace Settings

/-- Palettes are generated for colour hardware and for the Super Game Boy. -/
def usesColorPalettes (settings : Settings) : Bool :=
  settings.colorMode ≠ .mono || settings.sgbEnabled

/-- Super Game Boy support is built in; games for colour hardware only have none. -/
def sgbActive (settings : Settings) : Bool :=
  settings.sgbEnabled && settings.colorMode ≠ .color

end Settings

end Cartridge.Project
