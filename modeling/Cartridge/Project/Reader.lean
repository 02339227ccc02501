import Cartridge.Json.Decoder
import Cartridge.Project.Basic

/-!
# Reading projects

A project is read from JSON text.  Fields that are left out have their defaults and unknown
fields are skipped; a field of the wrong kind, a field given twice or a number out of range makes
the whole text unreadable.
-/

namespace Cartridge.Project

open Cartridge.Json
open Cartridge.Decimal
open Cartridge.Script (Event)
open Cartridge.Json.Decoder (Given fields field)

/-! ## Single values -/

/-- A whole number of 32 bits with a sign. -/
def int32 : Decoder Int32 :=
  fun room node => (Decoder.integer (-Int.pow 2 31) (Int.pow 2 31 - 1) room node).map Int32.ofInt

/-- A whole number of 32 bits without a sign. -/
def word32 : Decoder UInt32 :=
  fun room node => (Decoder.natural (Nat.pow 2 32) room node).map UInt32.ofNat

/-- A byte. -/
def byte : Decoder UInt8 :=
  fun room node => (Decoder.natural 256 room node).map UInt8.ofNat

/-- A number of the single format.  Integers are rounded at once, other numbers by way of the
double format. -/
def single : Decoder Rounded
  | _, .number (some (.natural n)) => some (Format.single.round false n 1)
  | _, .number (some (.negative n)) => some (Format.single.round true n.natAbs 1)
  | _, .number (some (.double x)) => some (Format.single.narrow x)
  | _, .number (some (.single x)) => some (.finite x)
  | _, _ => none

/-- The text of a field, empty when left out. -/
def textField (given : Given × Nat) (name : String) : Option String :=
  field given name Decoder.string ""

/-- A list of texts, with a default. -/
def textsField (given : Given × Nat) (name : String) (default : List String) :
    Option (List String) :=
  field given name (Decoder.list Decoder.string) default

/-! ## Settings -/

/-- Colour modes by name. -/
def colorModeNames : List (String × ColorMode) :=
  [("mono", .mono), ("mixed", .mixed), ("color", .color)]

/-- Memory controllers by name. -/
def controllerNames : List (String × Controller) :=
  [("mbc3", .mbc3), ("mbc5", .mbc5)]

/-- Music drivers by name. -/
def musicDriverNames : List (String × MusicDriver) :=
  [("gbtplayer", .gbtPlayer), ("huge", .hugeTracker)]

/-- Sprite modes by name. -/
def spriteModeNames : List (String × SpriteMode) :=
  [("8x8", .square), ("8x16", .tall)]

/-- Corrections of colours by name. -/
def colorCorrectionNames : List (String × ColorCorrection) :=
  [("default", .standard), ("none", .off)]

/-- Reads a sprite mode. -/
def readSpriteMode : Decoder SpriteMode :=
  Decoder.choice spriteModeNames

/-- Reads the fields about a project. -/
def readMetadata : Decoder Metadata := fun room node => do
  let given ← fields ["name", "author", "notes"] room node
  return {
    name := ← textField given "name"
    author := ← textField given "author"
    notes := ← textField given "notes" }

/-- The fields of settings. -/
def settingsFields : List String :=
  ["colorMode", "sgbEnabled", "cartType", "musicDriver", "batterylessEnabled", "compilerPreset",
    "spriteMode", "defaultBackgroundPaletteIds", "defaultSpritePaletteIds",
    "defaultPlayerSprites", "defaultFontId", "startSceneId", "startX", "startY",
    "startDirection", "startMoveSpeed", "startAnimSpeed", "romFilename", "debuggerEnabled",
    "colorCorrection", "customHead", "customColorsBlack", "customControlsUp",
    "customControlsDown", "customControlsLeft", "customControlsRight", "customControlsA",
    "customControlsB", "customControlsStart", "customControlsSelect"]

/-- Reads the keys of the player page. -/
def readControls (given : Given × Nat) : Option Controls := do
  let base : Controls := {}
  return {
    up := ← textsField given "customControlsUp" base.up
    down := ← textsField given "customControlsDown" base.down
    left := ← textsField given "customControlsLeft" base.left
    right := ← textsField given "customControlsRight" base.right
    a := ← textsField given "customControlsA" base.a
    b := ← textsField given "customControlsB" base.b
    start := ← textsField given "customControlsStart" base.start
    select := ← textsField given "customControlsSelect" base.select }

/-- Reads settings. -/
def readSettings : Decoder Settings := fun room node => do
  let base : Settings := {}
  let given ← fields settingsFields room node
  return {
    colorMode := ← field given "colorMode" (Decoder.choice colorModeNames) base.colorMode
    sgbEnabled := ← field given "sgbEnabled" Decoder.bool base.sgbEnabled
    controller := ← field given "cartType" (Decoder.choice controllerNames) base.controller
    musicDriver := ← field given "musicDriver" (Decoder.choice musicDriverNames) base.musicDriver
    batteryless := ← field given "batterylessEnabled" Decoder.bool base.batteryless
    compilerPreset := ← field given "compilerPreset" word32 base.compilerPreset
    spriteMode := ← field given "spriteMode" readSpriteMode base.spriteMode
    defaultBackgroundPaletteIds := ← textsField given "defaultBackgroundPaletteIds" []
    defaultSpritePaletteIds := ← textsField given "defaultSpritePaletteIds" []
    defaultPlayerSprites := ←
      field given "defaultPlayerSprites" (Decoder.map Decoder.string) []
    defaultFontId := ← textField given "defaultFontId"
    startSceneId := ← textField given "startSceneId"
    startX := ← field given "startX" int32 0
    startY := ← field given "startY" int32 0
    startDirection := ← field given "startDirection" Decoder.string base.startDirection
    startMoveSpeed := ← field given "startMoveSpeed" single base.startMoveSpeed
    startAnimSpeed := ← field given "startAnimSpeed" word32 base.startAnimSpeed
    romFilename := ← textField given "romFilename"
    debuggerEnabled := ← field given "debuggerEnabled" Decoder.bool base.debuggerEnabled
    colorCorrection := ←
      field given "colorCorrection" (Decoder.choice colorCorrectionNames) base.colorCorrection
    customHead := ← textField given "customHead"
    customColorsBlack := ←
      field given "customColorsBlack" Decoder.string base.customColorsBlack
    controls := ← readControls given }

/-! ## Scripts -/

/-- Reads an event whose branches are at most `levels` deep. -/
def readEventAt : Nat → Decoder Event
  | 0 => fun _ _ => none
  | levels + 1 => fun room node => do
    let given ← fields ["id", "command", "args", "children"] room node
    return {
      id := ← textField given "id"
      command := ← textField given "command"
      args := ← field given "args" Decoder.valueFields []
      branches := ←
        field given "children" (Decoder.map (Decoder.list (readEventAt levels))) [] }

/-- Reads an event.  Every level of branches opens an object, so the limit on nesting bounds
their depth. -/
def readEvent : Decoder Event :=
  readEventAt nestingLimit

/-- Reads a script. -/
def readScript : Decoder (List Event) :=
  Decoder.list readEvent

/-- A script, empty where it is missing. -/
def scriptField (given : Given × Nat) (name : String) : Option (List Event) :=
  field given name readScript []

/-- Reads a custom event. -/
def readCustomEvent : Decoder CustomEvent := fun room node => do
  let given ← fields ["id", "name", "symbol", "script"] room node
  return {
    id := ← textField given "id"
    name := ← textField given "name"
    symbol := ← textField given "symbol"
    script := ← scriptField given "script" }

/-! ## Scenes -/

/-- Reads an actor. -/
def readActor : Decoder Actor := fun room node => do
  let given ← fields ["id", "name", "symbol", "spriteSheetId", "x", "y", "direction",
    "collisionGroup", "script", "startScript", "updateScript", "hit1Script", "hit2Script",
    "hit3Script"] room node
  return {
    id := ← textField given "id"
    name := ← textField given "name"
    symbol := ← textField given "symbol"
    spriteSheetId := ← textField given "spriteSheetId"
    x := ← field given "x" int32 0
    y := ← field given "y" int32 0
    direction := ← textField given "direction"
    collisionGroup := ← textField given "collisionGroup"
    script := ← scriptField given "script"
    startScript := ← scriptField given "startScript"
    updateScript := ← scriptField given "updateScript"
    hit1Script := ← scriptField given "hit1Script"
    hit2Script := ← scriptField given "hit2Script"
    hit3Script := ← scriptField given "hit3Script" }

/-- Reads a trigger. -/
def readTrigger : Decoder Trigger := fun room node => do
  let given ← fields ["id", "name", "symbol", "x", "y", "width", "height", "script",
    "leaveScript"] room node
  return {
    id := ← textField given "id"
    name := ← textField given "name"
    symbol := ← textField given "symbol"
    x := ← field given "x" int32 0
    y := ← field given "y" int32 0
    width := ← field given "width" word32 0
    height := ← field given "height" word32 0
    script := ← scriptField given "script"
    leaveScript := ← scriptField given "leaveScript" }

/-- The fields of a scene. -/
def sceneFields : List String :=
  ["id", "name", "symbol", "type", "backgroundId", "tilesetId", "paletteIds",
    "spritePaletteIds", "parallax", "spriteMode", "autoFadeSpeed", "playerSpriteSheetId",
    "width", "height", "collisions", "actors", "triggers", "script", "playerHit1Script",
    "playerHit2Script", "playerHit3Script"]

/-- Reads a scene. -/
def readScene : Decoder Scene := fun room node => do
  let base : Scene := {}
  let given ← fields sceneFields room node
  return {
    id := ← textField given "id"
    name := ← textField given "name"
    symbol := ← textField given "symbol"
    type := ← field given "type" Decoder.string base.type
    backgroundId := ← textField given "backgroundId"
    tilesetId := ← textField given "tilesetId"
    paletteIds := ← textsField given "paletteIds" []
    spritePaletteIds := ← textsField given "spritePaletteIds" []
    parallax := ← field given "parallax" Decoder.bool false
    spriteMode := ← field given "spriteMode" (Decoder.optional readSpriteMode) none
    autoFadeSpeed := ← field given "autoFadeSpeed" (Decoder.optional byte) base.autoFadeSpeed
    playerSpriteSheetId := ← textField given "playerSpriteSheetId"
    width := ← field given "width" word32 base.width
    height := ← field given "height" word32 base.height
    collisions := ← field given "collisions" (Decoder.list byte) []
    actors := ← field given "actors" (Decoder.list readActor) []
    triggers := ← field given "triggers" (Decoder.list readTrigger) []
    script := ← scriptField given "script"
    playerHit1Script := ← scriptField given "playerHit1Script"
    playerHit2Script := ← scriptField given "playerHit2Script"
    playerHit3Script := ← scriptField given "playerHit3Script" }

/-! ## Assets and variables -/

/-- Reads the four colours of a palette. -/
def readShades : Decoder Shades := fun room node => do
  let [white, light, dark, black] ← Decoder.list Decoder.string room node | none
  return ⟨white, light, dark, black⟩

/-- Reads a palette. -/
def readPalette : Decoder Palette := fun room node => do
  let base : Palette := {}
  let given ← fields ["id", "name", "colors"] room node
  return {
    id := ← field given "id" Decoder.string base.id
    name := ← field given "name" Decoder.string base.name
    colors := ← field given "colors" readShades base.colors }

/-- The fields that all assets share. -/
def assetFields : List String := ["id", "name", "symbol", "filename"]

/-- What all assets share. -/
def assetPart (given : Given × Nat) : Option Asset := do
  return {
    id := ← textField given "id"
    name := ← textField given "name"
    symbol := ← textField given "symbol"
    filename := ← textField given "filename" }

/-- Reads an asset with no further fields. -/
def readAsset : Decoder Asset := fun room node => do
  assetPart (← fields assetFields room node)

/-- Reads a background. -/
def readBackground : Decoder Background := fun room node => do
  let given ← fields (assetFields ++ ["width", "height", "autoColor"]) room node
  return {
    toAsset := ← assetPart given
    width := ← field given "width" word32 0
    height := ← field given "height" word32 0
    autoColor := ← field given "autoColor" Decoder.bool false }

/-- Reads a sprite sheet. -/
def readSpriteSheet : Decoder SpriteSheet := fun room node => do
  let given ← fields (assetFields ++ ["spriteMode"]) room node
  return {
    toAsset := ← assetPart given
    mode := ← field given "spriteMode" (Decoder.optional readSpriteMode) none }

/-- Reads a track of music. -/
def readTrack : Decoder Track := fun room node => do
  let given ← fields (assetFields ++ ["type"]) room node
  return {
    toAsset := ← assetPart given
    format := ← textField given "type" }

/-- Reads a variable. -/
def readVariable : Decoder Variable := fun room node => do
  let given ← fields ["id", "name", "symbol"] room node
  return {
    id := ← textField given "id"
    name := ← textField given "name"
    symbol := ← textField given "symbol" }

/-- Reads a constant. -/
def readConstant : Decoder Constant := fun room node => do
  let given ← fields ["id", "name", "symbol", "value"] room node
  return {
    id := ← textField given "id"
    name := ← textField given "name"
    symbol := ← textField given "symbol"
    value := ← field given "value" int32 0 }

/-- Reads variables and constants. -/
def readVariables : Decoder (List Variable × List Constant) := fun room node => do
  let given ← fields ["variables", "constants"] room node
  return (← field given "variables" (Decoder.list readVariable) [],
    ← field given "constants" (Decoder.list readConstant) [])

/-! ## Projects -/

/-- The fields of a project. -/
def projectFields : List String :=
  ["metadata", "settings", "scenes", "scripts", "variables", "palettes", "sprites",
    "backgrounds", "tilesets", "fonts", "avatars", "emotes", "music", "sounds"]

/-- Reads a project; everything in it has a default. -/
def readProject : Decoder Project := fun room node => do
  let given ← fields projectFields room node
  let (vars, constants) ← field given "variables" readVariables ([], [])
  return {
    metadata := ← field given "metadata" readMetadata {}
    settings := ← field given "settings" readSettings {}
    scenes := ← field given "scenes" (Decoder.list readScene) []
    customEvents := ← field given "scripts" (Decoder.list readCustomEvent) []
    vars := vars
    constants := constants
    palettes := ← field given "palettes" (Decoder.list readPalette) []
    sprites := ← field given "sprites" (Decoder.list readSpriteSheet) []
    backgrounds := ← field given "backgrounds" (Decoder.list readBackground) []
    tilesets := ← field given "tilesets" (Decoder.list readAsset) []
    fonts := ← field given "fonts" (Decoder.list readAsset) []
    avatars := ← field given "avatars" (Decoder.list readAsset) []
    emotes := ← field given "emotes" (Decoder.list readAsset) []
    music := ← field given "music" (Decoder.list readTrack) []
    sounds := ← field given "sounds" (Decoder.list readTrack) [] }

/-- The project that a text writes. -/
def ofText? (text : String) : Option Project :=
  (Node.ofText? text).bind (readProject nestingLimit)

end Cartridge.Project
