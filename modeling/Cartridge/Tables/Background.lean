import Cartridge.Digest.Key
import Cartridge.Tables.Asset

/-!
# Backgrounds

A background is built once for every common tileset that some scene combines it with, or once
alone when no scene does.  Equal tile data is stored once where that is allowed: a background
that is built against a common tileset may point to data stored before it, and a background built
alone always owns its data.
-/

namespace Cartridge.Tables

open Cartridge.Project
open Cartridge.Digest (Key)
open Cartridge.Symbol (Allocator)
open Cartridge.Tile (Encoder EncodedBackground)

/-- A background to build. -/
structure BackgroundJob where
  background : Background
  common : Option Asset
  symbol : String

/-- A background as scenes refer to it. -/
structure BackgroundEntry where
  id : String
  name : String
  symbol : String
  commonTilesetId : Option String
  width : UInt32
  height : UInt32
  tileset : Option String
  colorTileset : Option String
  tilemap : Option String
  attributes : Option String
  autoPalettes : Option (List Palette)

/-- The built backgrounds with their data. -/
structure Backgrounds where
  entries : List BackgroundEntry := []
  tilesets : List Blob := []
  tilemaps : List Blob := []
  attributes : List Blob := []

namespace Backgrounds

/-- The place of the background built against a tileset; without a tileset any one counts. -/
def findVariant? (table : Backgrounds) (backgroundId tilesetId : String) : Option Nat :=
  table.entries.findIdx? fun entry =>
    entry.id == backgroundId &&
      (tilesetId == "" || entry.commonTilesetId == some tilesetId)

/-- The place of the first entry of a background. -/
def find? (table : Backgrounds) (backgroundId : String) : Option Nat :=
  table.entries.findIdx? fun entry => entry.id == backgroundId

/-- The place of the background of a scene: the one built against the scene's tileset, else the
first with the id. -/
def placeOf? (table : Backgrounds) (scene : Scene) : Option Nat :=
  (table.findVariant? scene.backgroundId scene.tilesetId).or (table.find? scene.backgroundId)

end Backgrounds

/-! ## Which backgrounds to build -/

/-- The tilesets that scenes combine a background with, in order of first use. -/
def commonTilesets (project : Project) (backgroundId : String) : List Asset :=
  let chosen := project.scenes.filterMap fun scene =>
    if scene.backgroundId = backgroundId && scene.tilesetId ≠ "" then
      project.tilesets.find? fun tileset => tileset.id = scene.tilesetId
    else none
  distinctBy (·.id) chosen

/-- A background with each tileset it is built against. -/
def variantsOf (project : Project) (background : Background) : List (Background × Option Asset) :=
  match commonTilesets project background.id with
  | [] => [(background, none)]
  | tilesets => tilesets.map fun tileset => (background, some tileset)

/-- The backgrounds to build, with their symbols. -/
def planBackgrounds (project : Project) (used : List Background) (a : Allocator) :
    List BackgroundJob × Allocator :=
  let variants := used.flatMap (variantsOf project)
  let (names, a) := a.allocateAll (variants.map fun v => (v.1.symbol, "bg_" ++ v.1.name))
  ((variants.zip names).map fun (v, symbol) => ⟨v.1, v.2, symbol⟩, a)

/-- Encodes the backgrounds of jobs. -/
def encodeBackgrounds (encoder : Encoder) (colorMode : ColorMode) (jobs : List BackgroundJob) :
    Except Compile.Error (List EncodedBackground) :=
  jobs.mapM fun job => encoder.background colorMode job.background job.common

/-! ## Storing tile data -/

/-- The stored tilesets, with the symbol last stored for each content. -/
structure TilesetStore where
  known : List (Key × String) := []
  tilesets : List Blob := []

namespace TilesetStore

/-- The key of the tiles of a tileset. -/
def keyOf (data : List UInt8) : Key :=
  .ofBytes "tileset" data

/-- Adds a tileset. -/
def push (store : TilesetStore) (data : List UInt8) (symbol : String) : TilesetStore :=
  { known := (keyOf data, symbol) :: store.known
    tilesets := store.tilesets ++ [⟨symbol, data⟩] }

/-- The symbol under which data is stored: that of equal data where sharing is allowed, else the
given one. -/
def intern (store : TilesetStore) (mayShare : Bool) (data : List UInt8) (symbol : String) :
    String × TilesetStore :=
  match mayShare, store.known.lookup (keyOf data) with
  | true, some existing => (existing, store)
  | _, _ => (symbol, store.push data symbol)

/-- The symbol of a tileset, unless it is empty. -/
def internSome (store : TilesetStore) (mayShare : Bool) (data : List UInt8) (symbol : String) :
    Option String × TilesetStore :=
  if data.isEmpty then (none, store)
  else
    let (name, store) := store.intern mayShare data symbol
    (some name, store)

end TilesetStore

/-- Data under a symbol, unless it is empty. -/
def blobUnlessEmpty (symbol : String) (data : List UInt8) : Option Blob :=
  if data.isEmpty then none else some ⟨symbol, data⟩

/-- Adds a background with its tilesets, its map and its attributes. -/
def addBackground (state : Backgrounds × TilesetStore) (job : BackgroundJob)
    (encoded : EncodedBackground) : Backgrounds × TilesetStore :=
  let (table, store) := state
  let mayShare := job.common.isSome
  let (tileset, store) := store.internSome mayShare encoded.bank1 (job.symbol ++ "_tileset")
  let (colorTileset, store) :=
    store.internSome mayShare encoded.bank2 (job.symbol ++ "_cgb_tileset")
  let tilemap := blobUnlessEmpty (job.symbol ++ "_tilemap") encoded.tilemap
  let attributes := blobUnlessEmpty (job.symbol ++ "_tilemap_attr") encoded.attributes
  let entry : BackgroundEntry :=
    { id := job.background.id
      name := job.background.name
      symbol := job.symbol
      commonTilesetId := job.common.map (·.id)
      width := encoded.width
      height := encoded.height
      tileset := tileset
      colorTileset := colorTileset
      tilemap := tilemap.map (·.symbol)
      attributes := attributes.map (·.symbol)
      autoPalettes := encoded.autoPalettes }
  ({ entries := table.entries ++ [entry]
     tilesets := store.tilesets
     tilemaps := table.tilemaps ++ tilemap.toList
     attributes := table.attributes ++ attributes.toList }, store)

/-- The table of encoded backgrounds. -/
def assembleBackgrounds (jobs : List BackgroundJob) (encoded : List EncodedBackground) :
    Backgrounds :=
  ((jobs.zip encoded).foldl (fun state pair => addBackground state pair.1 pair.2) ({}, {})).1

end Cartridge.Tables
