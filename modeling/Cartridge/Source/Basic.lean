import Cartridge.Source.Globals

/-!
# All generated sources

Every table of a project as sources, in the order in which they are written.
-/

namespace Cartridge.Source

open Cartridge.Compile (SceneScripts)
open Cartridge.Compile.Template (SceneType)
open Cartridge.Tables

/-- What sources are generated from. -/
structure Input where
  project : Project
  tables : Tables
  /-- The scripts of each scene. -/
  scripts : List SceneScripts
  /-- The names of the variables, by id. -/
  aliases : List (String × String)
  usedTypes : List String
  knownTypes : List SceneType

/-- The tables of assets. -/
def assetTables (tables : Tables) : List Table :=
  (tables.backgrounds.tilesets.map fun b => tilesetTable b.symbol "Background tileset" b.data) ++
    (tables.sprites.tilesets.map fun b => tilesetTable b.symbol "Sprite tileset" b.data) ++
    (tables.tilesets.map fun t => tilesetTable t.symbol ("Tileset: " ++ t.name) t.data) ++
    (tables.backgrounds.tilemaps.map fun b => bytesTable b.symbol "Tilemap" b.data) ++
    (tables.backgrounds.attributes.map fun b => bytesTable b.symbol "Tilemap attributes" b.data) ++
    tables.backgrounds.entries.map backgroundTable ++
    (tables.palettes.sets.zipIdx.map fun (set, i) => paletteTable (paletteSymbol i) set) ++
    tables.sprites.entries.map spriteTable ++ [emptySheetTable] ++
    (tables.fonts.map fun f => fontTable f.symbol ("Font: " ++ f.name) f.data) ++
    avatarTables tables.avatars ++
    (tables.emotes.map fun e => tilesetTable e.symbol ("Emote: " ++ e.name) e.data) ++
    [tilesetTable "frame_image" "UI frame" tables.interface.frame,
      tilesetTable "cursor_image" "UI cursor" tables.interface.cursor]

/-- The tables of all scenes. -/
def allSceneTables (input : Input) : List Table :=
  (input.tables.scenes.zip input.scripts).flatMap fun (entry, scripts) =>
    sceneTables input.tables input.usedTypes entry scripts

/-- All generated sources, in order. -/
def dataFiles (input : Input) : List File :=
  (assetTables input.tables ++ allSceneTables input ++ musicTables input.tables.music).flatMap
      Table.files ++
    [musicFile input.tables.music] ++ soundFiles input.tables.sounds ++
    globalsFiles input.project input.aliases ++
    [sceneTypesFile input.usedTypes input.knownTypes,
      bootstrapFile input.project input.tables] ++
    engineInitFiles ++ [signatureFile input.project input.aliases]

end Cartridge.Source
