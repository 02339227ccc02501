import Cartridge.Files.Path
import Cartridge.Project.Settings

/-!
# Assets of a project

An asset is a file of the project with an id, a display name and a preferred symbol.  The files
of each kind lie in a folder of their own.
-/

namespace Cartridge.Project

/-- The four colours of a palette, from light to dark. -/
structure Shades where
  white : String
  light : String
  dark : String
  black : String
  deriving DecidableEq

/-- The four colours, from the brightest on. -/
def Shades.toList (s : Shades) : List String :=
  [s.white, s.light, s.dark, s.black]

/-- The id of the palette of grey shades. -/
def monochromeId : String := "dmg"

/-- A palette; left-out fields are those of the built-in monochrome palette. -/
structure Palette where
  id : String := monochromeId
  name : String := "Default"
  colors : Shades := ⟨"E8F8E0", "B0F088", "509878", "202850"⟩

/-- The built-in palette that every choice falls back to. -/
def Palette.monochrome : Palette := {}

instance : Digest.Digestible Palette where
  calls palette := .tag "palette" :: Digest.calls palette.colors.toList

/-- A file of the project. -/
structure Asset where
  id : String := ""
  name : String := ""
  symbol : String := ""
  filename : String := ""

/-- The file of an asset in a project. -/
def Asset.path (asset : Asset) (folder : String) (root : Files.FilePath) : Files.FilePath :=
  root.joinAll ["assets", folder, asset.filename]

/-- An image that fills the screen behind a scene. -/
structure Background extends Asset where
  width : UInt32 := 0
  height : UInt32 := 0
  autoColor : Bool := false

/-- An image with the frames of a sprite. -/
structure SpriteSheet extends Asset where
  mode : Option SpriteMode := none

/-- A piece of music or a sound, with the name of its format. -/
structure Track extends Asset where
  format : String := ""

/-- The track is written for the tracker driver; all others are for the player driver. -/
def Track.isTracker (track : Track) : Bool :=
  track.format == "uge"

/-- The driver that plays a track. -/
def Track.driver (track : Track) : MusicDriver :=
  if track.isTracker then .hugeTracker else .gbtPlayer

end Cartridge.Project
