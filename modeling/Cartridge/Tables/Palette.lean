import Cartridge.Tables.Background

/-!
# Palette sets

A scene has two palette sets, one for its background and one for its sprites.  A set has the
shades for monochrome hardware and, where colours are used, the colours of eight palettes.  Equal
sets are stored once for the whole project.

The background takes the palettes that were derived from the picture where there are some, then
those of the scene, then those of the settings, and the built-in palette at last.
-/

namespace Cartridge.Tables

open Cartridge.Project
open Cartridge.Digest (Key)

/-- A shade of the monochrome hardware. -/
inductive Gray
  | white
  | light
  | dark
  | black
  deriving DecidableEq

/-- The name of a shade in generated sources. -/
def Gray.name : Gray → String
  | .white => "DMG_WHITE"
  | .light => "DMG_LITE_GRAY"
  | .dark => "DMG_DARK_GRAY"
  | .black => "DMG_BLACK"

/-- What a palette set colours. -/
inductive Layer
  | background
  | sprites
  deriving DecidableEq

/-- The shades of the hardware without colours. -/
def Layer.rows : Layer → List (List Gray)
  | .background => [[.white, .light, .dark, .black]]
  | .sprites => [[.white, .white, .light, .black], [.white, .white, .dark, .black]]

/-- The number of palettes in a set. -/
def paletteSlots : Nat := 8

/-- The palettes of one layer of a scene. -/
structure PaletteSet where
  layer : Layer
  /-- The colours of each palette, where colours are used. -/
  colors : Option (List Shades)
  deriving DecidableEq

namespace PaletteSet

/-- What the key of a palette set covers. -/
def calls (set : PaletteSet) : List Digest.Call :=
  .tag "dmg" :: Digest.countCall set.layer.rows.length ::
    (set.layer.rows.flatMap fun row => row.map fun gray => .text gray.name) ++
    Digest.calls (set.colors.map fun palettes => palettes.map Shades.toList)

/-- The key of a palette set: sets with the same content share one. -/
def key (set : PaletteSet) : Key :=
  .ofCalls "palette-set" set.calls

end PaletteSet

/-- The distinct palette sets of a project and the sets of each scene. -/
structure Palettes where
  sets : List PaletteSet := []
  /-- The place of the background's set for each scene id. -/
  sceneBackground : List (String × Nat) := []
  /-- The place of the sprites' set for each scene id. -/
  sceneSprites : List (String × Nat) := []

/-- The symbol of the palette set at a place. -/
def paletteSymbol (place : Nat) : String :=
  "palette_" ++ String.ofList (Nat.toDigits 10 place)

/-- The last value under a name. -/
def lastOf? (entries : List (String × α)) (name : String) : Option α :=
  (entries.reverse.find? fun entry => entry.1 == name).map (·.2)

/-! ## The sets of a scene -/

/-- The palette for a slot: the chosen one, else the default one, else the built-in one.  The
built-in palette is chosen by its own id. -/
def choosePalette (palettes : List Palette) (chosen fallback : Option String) : Palette :=
  if chosen == some monochromeId then .monochrome
  else
    let byId (id : String) := palettes.reverse.find? fun palette => palette.id == id
    ((chosen.bind byId).or (fallback.bind byId)).getD .monochrome

/-- The background palettes of a scene, given those derived from its picture. -/
def backgroundColors (project : Project) (auto : Option (List Palette)) (scene : Scene) :
    List Shades :=
  (List.range paletteSlots).map fun slot =>
    let derived := auto.bind fun palettes => palettes[slot]?
    (derived.getD (choosePalette project.palettes scene.paletteIds[slot]?
      project.settings.defaultBackgroundPaletteIds[slot]?)).colors

/-- The sprite palettes of a scene.  The first colour of a sprite is transparent, so it stands
twice and the third is left out. -/
def spriteColors (project : Project) (scene : Scene) : List Shades :=
  (List.range paletteSlots).map fun slot =>
    let colors := (choosePalette project.palettes scene.spritePaletteIds[slot]?
      project.settings.defaultSpritePaletteIds[slot]?).colors
    ⟨colors.white, colors.white, colors.light, colors.black⟩

/-- The palettes that the encoder has found in the background of a scene. -/
def derivedPalettes (backgrounds : Backgrounds) (scene : Scene) : Option (List Palette) :=
  (backgrounds.entries.find? fun entry => entry.id == scene.backgroundId).bind (·.autoPalettes)

/-- The palettes of the background of a scene. -/
def backgroundSet (project : Project) (backgrounds : Backgrounds) (scene : Scene) : PaletteSet :=
  { layer := .background
    colors :=
      if project.settings.usesColorPalettes then
        some (backgroundColors project (derivedPalettes backgrounds scene) scene)
      else none }

/-- The palettes of the sprites of a scene. -/
def spriteSet (project : Project) (scene : Scene) : PaletteSet :=
  { layer := .sprites
    colors :=
      if project.settings.usesColorPalettes then some (spriteColors project scene) else none }

/-! ## Storing equal sets once -/

/-- The place of a set among the stored ones, which it joins when it is new. -/
def internSet (stored : List (Key × PaletteSet)) (set : PaletteSet) :
    Nat × List (Key × PaletteSet) :=
  match stored.findIdx? fun entry => entry.1 == set.key with
  | some place => (place, stored)
  | none => (stored.length, stored ++ [(set.key, set)])

/-- The places of palette sets; those that are stored already are not stored again. -/
def internSets (stored : List (Key × PaletteSet)) : List PaletteSet →
    List Nat × List (Key × PaletteSet)
  | [] => ([], stored)
  | set :: rest =>
    let (place, stored) := internSet stored set
    let (places, stored) := internSets stored rest
    (place :: places, stored)

/-- The palette sets of all scenes, those of backgrounds first. -/
def buildPalettes (project : Project) (backgrounds : Backgrounds) : Palettes :=
  let ids := project.scenes.map (·.id)
  let (backgroundPlaces, stored) :=
    internSets [] (project.scenes.map (backgroundSet project backgrounds))
  let (spritePlaces, stored) := internSets stored (project.scenes.map (spriteSet project))
  { sets := stored.map (·.2)
    sceneBackground := ids.zip backgroundPlaces
    sceneSprites := ids.zip spritePlaces }

end Cartridge.Tables
