import Cartridge.Decimal.Shortest
import Cartridge.Json.Printer
import Cartridge.Project.Basic

/-!
# Writing projects

The JSON form of a project lists the fields of each record in a fixed order, all of them, also
those with their default values.
-/

namespace Cartridge.Project

open Cartridge.Json
open Cartridge.Decimal
open Cartridge.Script (eventsJson)

/-! ## Single values -/

/-- A number without a sign. -/
def naturalJson (n : Nat) : Value :=
  .number (.natural n)

/-- A number with a sign. -/
def integerJson (n : Int) : Value :=
  .number (if 0 ≤ n then .natural n.toNat else .negative n)

/-- A number of 32 bits; an infinite one is null. -/
def singleJson : Rounded → Value
  | .infinite _ => .null
  | .finite x => .number (.single x)

/-- A list of texts. -/
def textsJson (texts : List String) : Value :=
  .array (texts.map .string)

/-- A value that may be missing, which is null. -/
def optionalJson (write : α → Value) : Option α → Value
  | some a => write a
  | none => .null

/-! ## Settings -/

/-- A colour mode by its name. -/
def ColorMode.json : ColorMode → Value
  | .mono => .string "mono"
  | .mixed => .string "mixed"
  | .color => .string "color"

/-- A memory controller by its name. -/
def Controller.json : Controller → Value
  | .mbc3 => .string "mbc3"
  | .mbc5 => .string "mbc5"

/-- A music driver by its name. -/
def MusicDriver.json : MusicDriver → Value
  | .gbtPlayer => .string "gbtplayer"
  | .hugeTracker => .string "huge"

/-- A sprite mode by its name. -/
def SpriteMode.json (mode : SpriteMode) : Value :=
  .string mode.name

/-- A correction of colours by its name. -/
def ColorCorrection.json : ColorCorrection → Value
  | .standard => .string "default"
  | .off => .string "none"

/-- The fields about a project. -/
def Metadata.json (m : Metadata) : Value :=
  .object [("name", .string m.name), ("author", .string m.author), ("notes", .string m.notes)]

/-- The settings of a project. -/
def Settings.json (s : Settings) : Value :=
  .object [
    ("colorMode", s.colorMode.json),
    ("sgbEnabled", .bool s.sgbEnabled),
    ("cartType", s.controller.json),
    ("musicDriver", s.musicDriver.json),
    ("batterylessEnabled", .bool s.batteryless),
    ("compilerPreset", naturalJson s.compilerPreset.toNat),
    ("spriteMode", s.spriteMode.json),
    ("defaultBackgroundPaletteIds", textsJson s.defaultBackgroundPaletteIds),
    ("defaultSpritePaletteIds", textsJson s.defaultSpritePaletteIds),
    ("defaultPlayerSprites",
      .object (s.defaultPlayerSprites.map fun entry => (entry.1, .string entry.2))),
    ("defaultFontId", .string s.defaultFontId),
    ("startSceneId", .string s.startSceneId),
    ("startX", integerJson s.startX.toInt),
    ("startY", integerJson s.startY.toInt),
    ("startDirection", .string s.startDirection),
    ("startMoveSpeed", singleJson s.startMoveSpeed),
    ("startAnimSpeed", naturalJson s.startAnimSpeed.toNat),
    ("romFilename", .string s.romFilename),
    ("debuggerEnabled", .bool s.debuggerEnabled),
    ("colorCorrection", s.colorCorrection.json),
    ("customHead", .string s.customHead),
    ("customColorsBlack", .string s.customColorsBlack),
    ("customControlsUp", textsJson s.controls.up),
    ("customControlsDown", textsJson s.controls.down),
    ("customControlsLeft", textsJson s.controls.left),
    ("customControlsRight", textsJson s.controls.right),
    ("customControlsA", textsJson s.controls.a),
    ("customControlsB", textsJson s.controls.b),
    ("customControlsStart", textsJson s.controls.start),
    ("customControlsSelect", textsJson s.controls.select)]

/-! ## Scenes -/

/-- A script. -/
def scriptJson (events : List Script.Event) : Value :=
  .array (eventsJson events)

/-- An actor with its scripts. -/
def Actor.json (a : Actor) : Value :=
  .object ([
    ("id", .string a.id),
    ("name", .string a.name),
    ("symbol", .string a.symbol),
    ("spriteSheetId", .string a.spriteSheetId),
    ("x", integerJson a.x.toInt),
    ("y", integerJson a.y.toInt),
    ("direction", .string a.direction),
    ("collisionGroup", .string a.collisionGroup)] ++
    a.slots.map fun slot => (slot.1, scriptJson slot.2))

/-- A trigger with its scripts. -/
def Trigger.json (t : Trigger) : Value :=
  .object ([
    ("id", .string t.id),
    ("name", .string t.name),
    ("symbol", .string t.symbol),
    ("x", integerJson t.x.toInt),
    ("y", integerJson t.y.toInt),
    ("width", naturalJson t.width.toNat),
    ("height", naturalJson t.height.toNat)] ++
    t.slots.map fun slot => (slot.1, scriptJson slot.2))

/-- A scene with what lies in it. -/
def Scene.json (s : Scene) : Value :=
  .object ([
    ("id", .string s.id),
    ("name", .string s.name),
    ("symbol", .string s.symbol),
    ("type", .string s.type),
    ("backgroundId", .string s.backgroundId),
    ("tilesetId", .string s.tilesetId),
    ("paletteIds", textsJson s.paletteIds),
    ("spritePaletteIds", textsJson s.spritePaletteIds),
    ("parallax", .bool s.parallax),
    ("spriteMode", optionalJson SpriteMode.json s.spriteMode),
    ("autoFadeSpeed", optionalJson (fun n => naturalJson n.toNat) s.autoFadeSpeed),
    ("playerSpriteSheetId", .string s.playerSpriteSheetId),
    ("width", naturalJson s.width.toNat),
    ("height", naturalJson s.height.toNat),
    ("collisions", .array (s.collisions.map fun n => naturalJson n.toNat)),
    ("actors", .array (s.actors.map Actor.json)),
    ("triggers", .array (s.triggers.map Trigger.json))] ++
    s.slots.map fun slot => (slot.1, scriptJson slot.2))

/-! ## Assets and variables -/

/-- A palette. -/
def Palette.json (p : Palette) : Value :=
  .object [("id", .string p.id), ("name", .string p.name),
    ("colors", textsJson p.colors.toList)]

/-- The fields that all assets share. -/
def Asset.fields (a : Asset) : List (String × Value) :=
  [("id", .string a.id), ("name", .string a.name), ("symbol", .string a.symbol),
    ("filename", .string a.filename)]

/-- An asset with no further fields. -/
def Asset.json (a : Asset) : Value :=
  .object a.fields

/-- A background. -/
def Background.json (b : Background) : Value :=
  .object (b.toAsset.fields ++ [("width", naturalJson b.width.toNat),
    ("height", naturalJson b.height.toNat), ("autoColor", .bool b.autoColor)])

/-- A sprite sheet. -/
def SpriteSheet.json (s : SpriteSheet) : Value :=
  .object (s.toAsset.fields ++ [("spriteMode", optionalJson SpriteMode.json s.mode)])

/-- The JSON form of a piece of music or a sound. -/
def Track.json (t : Track) : Value :=
  .object (t.toAsset.fields ++ [("type", .string t.format)])

/-- A custom event. -/
def CustomEvent.json (c : CustomEvent) : Value :=
  .object [("id", .string c.id), ("name", .string c.name), ("symbol", .string c.symbol),
    ("script", scriptJson c.script)]

/-- A variable. -/
def Variable.json (v : Variable) : Value :=
  .object [("id", .string v.id), ("name", .string v.name), ("symbol", .string v.symbol)]

/-- A constant. -/
def Constant.json (c : Constant) : Value :=
  .object [("id", .string c.id), ("name", .string c.name), ("symbol", .string c.symbol),
    ("value", integerJson c.value.toInt)]

/-! ## Projects -/

/-- A project. -/
def json (p : Project) : Value :=
  .object [
    ("metadata", p.metadata.json),
    ("settings", p.settings.json),
    ("scenes", .array (p.scenes.map Scene.json)),
    ("scripts", .array (p.customEvents.map CustomEvent.json)),
    ("variables", .object [
      ("variables", .array (p.vars.map Variable.json)),
      ("constants", .array (p.constants.map Constant.json))]),
    ("palettes", .array (p.palettes.map Palette.json)),
    ("sprites", .array (p.sprites.map SpriteSheet.json)),
    ("backgrounds", .array (p.backgrounds.map Background.json)),
    ("tilesets", .array (p.tilesets.map Asset.json)),
    ("fonts", .array (p.fonts.map Asset.json)),
    ("avatars", .array (p.avatars.map Asset.json)),
    ("emotes", .array (p.emotes.map Asset.json)),
    ("music", .array (p.music.map Track.json)),
    ("sounds", .array (p.sounds.map Track.json))]

/-- A project as it is written to a file. -/
def text (p : Project) : String :=
  p.json.compact

end Cartridge.Project
