import Cartridge.Compile.Template
import Cartridge.Tables.Scene

/-!
# The tables of a project

Everything that is generated from the assets and scenes of a project.  Symbols are handed out
first, class by class, then files are encoded, then scenes and palettes are built from the
encoded data.
-/

namespace Cartridge

open Cartridge.Compile (Outcome Error Template)
open Cartridge.Files (FilePath FileTree)
open Cartridge.Project
open Cartridge.Symbol (Allocator)
open Cartridge.Tile (Encoder)

namespace Tables

/-- The tiles of frames and cursors. -/
structure Interface where
  frame : List UInt8
  cursor : List UInt8

end Tables

open Tables

/-- Everything that is generated from the assets and scenes of a project. -/
structure Tables where
  vars : List String
  backgrounds : Backgrounds
  tilesets : List AssetData
  sprites : Sprites
  fonts : List AssetData
  avatars : List AssetData
  emotes : List AssetData
  music : List AssetData
  sounds : List AssetData
  interface : Interface
  scenes : List SceneEntry
  palettes : Palettes
  /-- The symbol of each referenced piece of music. -/
  musicSymbols : List (String × String)

namespace Tables

/-- The symbol of an asset by its id. -/
def assetSymbol? (assets : List AssetData) (id : String) : Option String :=
  (assets.find? fun asset => asset.id == id).map (·.symbol)

/-- The symbol of what a reference names. -/
def symbolFor? (tables : Tables) (kind : Reference) (id : String) : Option String :=
  match kind with
  | .background => (tables.backgrounds.entries.find? fun b => b.id == id).map (·.symbol)
  | .sprite => (tables.sprites.get? id).map (·.symbol)
  | .tileset => assetSymbol? tables.tilesets id
  | .font => assetSymbol? tables.fonts id
  | .avatar => assetSymbol? tables.avatars id
  | .emote => assetSymbol? tables.emotes id
  | .sound => assetSymbol? tables.sounds id
  | .music => lastOf? tables.musicSymbols id
  | .scene => (tables.scenes.find? fun s => s.scene.id == id).map (·.symbol)
  | .variable => none

/-! ## Building the tables -/

/-- What tables are built from. -/
structure Input where
  project : Project
  root : FilePath
  platform : Platform
  schema : Schema
  template : Template
  /-- The encoder for a tree of files. -/
  encoder : FileTree → Encoder

/-- The symbols of all assets. -/
structure Names where
  backgrounds : List BackgroundJob
  sprites : List (SpriteSheet × String)
  tilesets : List (Asset × String)
  fonts : List (Asset × String)
  avatars : List (Asset × String)
  emotes : List (Asset × String)
  sounds : List (Asset × String)
  music : MusicPlan

/-- The assets themselves, without who mentions them. -/
def assetsOf (used : List (Used α)) : List α :=
  used.map (·.asset)

/-- Hands out the symbols of all used assets. -/
def nameAll (project : Project) (usage : Usage) (a : Allocator) : Names × Allocator :=
  let (backgrounds, a) := planBackgrounds project (assetsOf usage.backgrounds) a
  let (sprites, a) := planSprites (assetsOf usage.sprites) a
  let (tilesets, a) := nameAssets "tileset" (assetsOf usage.tilesets) a
  let (fonts, a) := nameAssets "font" (assetsOf usage.fonts) a
  let (avatars, a) := nameAssets "avatar" (assetsOf usage.avatars) a
  let (emotes, a) := nameAssets "emote" (assetsOf usage.emotes) a
  let (sounds, a) := nameAssets "sound" ((assetsOf usage.sounds).map (·.toAsset)) a
  let (music, a) := planMusic (assetsOf usage.music) a
  (⟨backgrounds, sprites, tilesets, fonts, avatars, emotes, sounds, music⟩, a)

/-- All encoded assets. -/
structure Encoded where
  backgrounds : Backgrounds
  sprites : Sprites
  tilesets : List AssetData
  fonts : List AssetData
  avatars : List AssetData
  emotes : List AssetData
  music : List AssetData
  sounds : List AssetData
  interface : Interface

/-- Encodes all assets; of several failures the first class counts. -/
def encodeAll (project : Project) (root : FilePath) (encoder : Encoder) (names : Names)
    (frame cursor : FilePath) : Except Error Encoded := do
  let backgrounds ← encodeBackgrounds encoder project.settings.colorMode names.backgrounds
  let sprites ← encodeSprites encoder names.sprites
  let tilesets ← encodeAssets "tilesets" root encoder.tiles names.tilesets
  let fonts ← encodeAssets "fonts" root encoder.tiles names.fonts
  let avatars ← encodeAssets "avatars" root encoder.tiles names.avatars
  let emotes ← encodeAssets "emotes" root encoder.tiles names.emotes
  let music ← encodeAssets "music" root encoder.audio names.music.pieces
  let sounds ← encodeAssets "sounds" root encoder.audio names.sounds
  let frame ← encoder.tiles frame
  let cursor ← encoder.tiles cursor
  return {
    backgrounds := assembleBackgrounds names.backgrounds backgrounds
    sprites := assembleSprites project.settings.spriteMode names.sprites sprites
    tilesets := tilesets
    fonts := fonts
    avatars := avatars
    emotes := emotes
    music := music
    sounds := sounds
    interface := ⟨frame, cursor⟩ }

/-- Builds scenes and palettes from encoded assets. -/
def assemble (input : Input) (usage : Usage) (names : Names) (encoded : Encoded)
    (a : Allocator) : Outcome (Tables × Allocator) := do
  let (scenes, a) ← buildScenes
    ⟨input.project, input.platform.limits, encoded.backgrounds, encoded.sprites⟩ 0
    input.project.scenes a
  return ({
    vars := usage.vars
    backgrounds := encoded.backgrounds
    tilesets := encoded.tilesets
    sprites := encoded.sprites
    fonts := encoded.fonts
    avatars := encoded.avatars
    emotes := encoded.emotes
    music := encoded.music
    sounds := encoded.sounds
    interface := encoded.interface
    scenes := scenes
    palettes := buildPalettes input.project encoded.backgrounds
    musicSymbols := names.music.symbols }, a)

/-- Stops a project without fonts, after providing the default font. -/
def requireFonts (input : Input) (usage : Usage) (tree : FileTree) : Outcome FileTree :=
  if usage.fonts.isEmpty then do
    let (_, tree) ← input.template.ensureAsset tree input.root "assets/fonts/gbs-mono.png"
    let _ ← input.template.ensureAsset tree input.root "assets/fonts/gbs-mono.json"
    Outcome.fail .missingFonts
  else .ok tree

/-- Builds the tables of a project: names first, then data, then scenes. -/
def build (input : Input) (tree : FileTree) (a : Allocator) : Outcome (Tables × Allocator) := do
  let usage := Usage.ofProject input.project input.schema
  let tree ← requireFonts input usage tree
  let (frame, tree) ← input.template.ensureAsset tree input.root "assets/ui/frame.png"
  let (cursor, tree) ← input.template.ensureAsset tree input.root "assets/ui/cursor.png"
  let (names, a) := nameAll input.project usage a
  let encoded ← Outcome.ofExcept
    (encodeAll input.project input.root (input.encoder tree) names frame cursor)
  assemble input usage names encoded a

end Tables

end Cartridge
