import Cartridge.Tables.Asset

/-!
# Sprite sheets

Every used sprite sheet with its tiles.  Tiles that do not fit beside the background go to the
second bank of memory.
-/

namespace Cartridge.Tables

open Cartridge.Project
open Cartridge.Symbol (Allocator)
open Cartridge.Tile (Encoder EncodedSprite)

/-- A sprite sheet as scenes refer to it. -/
structure SpriteEntry where
  id : String
  name : String
  symbol : String
  mode : SpriteMode
  tileCount : Nat
  tileset : String
  bank2Tileset : Option String

/-- The tiles that a sheet takes up in a mode. -/
def SpriteEntry.tilesIn (entry : SpriteEntry) : SpriteMode → Nat
  | .tall => entry.tileCount * 2
  | .square => entry.tileCount

/-- The built sprite sheets with their data. -/
structure Sprites where
  entries : List SpriteEntry := []
  tilesets : List Blob := []

namespace Sprites

/-- The entry of a sprite sheet. -/
def get? (table : Sprites) (id : String) : Option SpriteEntry :=
  table.entries.find? fun entry => entry.id == id

/-- The place of a sprite sheet. -/
def place? (table : Sprites) (id : String) : Option Nat :=
  table.entries.findIdx? fun entry => entry.id == id

end Sprites

/-- The sprite sheets in use with their symbols. -/
def planSprites (used : List SpriteSheet) (a : Allocator) :
    List (SpriteSheet × String) × Allocator :=
  let (names, a) := a.allocateAll (used.map fun sheet => (sheet.symbol, "sprite_" ++ sheet.name))
  (used.zip names, a)

/-- Encodes sprite sheets. -/
def encodeSprites (encoder : Encoder) (named : List (SpriteSheet × String)) :
    Except Compile.Error (List EncodedSprite) :=
  named.mapM fun entry => encoder.sprite entry.1

/-- Adds a built sheet to the tables; a sheet without a size of its own has the given one. -/
def addSprite (mode : SpriteMode) (table : Sprites) (sheet : SpriteSheet) (symbol : String)
    (encoded : EncodedSprite) : Sprites :=
  let tileset := symbol ++ "_tileset"
  let bank2 : Option Blob :=
    if encoded.bank2.isEmpty then none else some ⟨symbol ++ "_bank2_tileset", encoded.bank2⟩
  let entry : SpriteEntry :=
    { id := sheet.id
      name := sheet.name
      symbol := symbol
      mode := sheet.mode.getD mode
      tileCount := encoded.tileCount
      tileset := tileset
      bank2Tileset := bank2.map (·.symbol) }
  { entries := table.entries ++ [entry]
    tilesets := table.tilesets ++ ⟨tileset, encoded.bank1⟩ :: bank2.toList }

/-- The table of encoded sprite sheets. -/
def assembleSprites (mode : SpriteMode) (named : List (SpriteSheet × String))
    (encoded : List EncodedSprite) : Sprites :=
  (named.zip encoded).foldl (fun table pair => addSprite mode table pair.1.1 pair.1.2 pair.2) {}

end Cartridge.Tables
