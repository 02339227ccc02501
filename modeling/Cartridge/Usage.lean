import Cartridge.Platform
import Cartridge.Schema
import Cartridge.Script.Walk

/-!
# What a project uses

Only assets that something refers to are built.  A mention says that an entity refers to an
asset, a variable or a scene by id.  Mentions come from the arguments of all visited events, and
from the scenes, actors and settings themselves.  An empty id mentions nothing.
-/

namespace Cartridge

open Cartridge.Json
open Cartridge.Script (Event)
open Cartridge.Project

/-- An entity refers to something by its id. -/
structure Mention where
  kind : Reference
  id : String
  who : String
  deriving DecidableEq

namespace Mention

/-- The id in an argument; variables may also be given by number or as an object. -/
def argumentId? (kind : Reference) : Value → Option String
  | .string id => some id
  | .number n => if kind = .variable then some n.text else none
  | .object fields =>
    if kind = .variable && (Fields.get? fields "type").bind Value.string? == some "variable" then
      (Fields.get? fields "value").bind Value.string?
    else none
  | _ => none

/-- What an entry of a list of references mentions. -/
def ofListed? (who : String) (entry : Value) : Option Mention := do
  let kind ← (entry.field? "type").bind Value.string? |>.bind Reference.ofName?
  let id ← (entry.field? "id").bind Value.string?
  return ⟨kind, id, who⟩

/-- What an argument of a command mentions. -/
def ofArgument (schema : Schema) (command who : String) (arg : String × Value) : List Mention :=
  if arg.1 = "references" then (arg.2.array?.getD []).filterMap (ofListed? who)
  else
    match schema.kind? command arg.1 with
    | none => []
    | some kind => ((argumentId? kind arg.2).map fun id => ⟨kind, id, who⟩).toList

/-- The mentions in an event.  Playing music without saying which plays the first piece. -/
def ofEvent (schema : Schema) (music : List Track) (who : String) (event : Event) :
    List Mention :=
  event.args.flatMap (ofArgument schema event.command who) ++
    if event.command = Script.Command.playMusic && (event.text? "musicId").isNone then
      (music.head?.map fun track => ⟨.music, track.id, who⟩).toList
    else []

/-- Those who mention what the settings name. -/
def settingsName : String := "settings"

/-- The sprite sheet of the player in a scene: its own, or the default for its type. -/
def playerSpriteId (settings : Settings) (scene : Scene) : String :=
  if scene.playerSpriteSheetId = "" then
    (Fields.get? settings.defaultPlayerSprites scene.type).getD ""
  else scene.playerSpriteSheetId

/-- What a scene mentions outside of its scripts. -/
def ofScene (settings : Settings) (scene : Scene) : List Mention :=
  [⟨.background, scene.backgroundId, scene.id⟩, ⟨.tileset, scene.tilesetId, scene.id⟩,
    ⟨.sprite, playerSpriteId settings scene, scene.id⟩] ++
    scene.actors.map fun actor => ⟨.sprite, actor.spriteSheetId, actor.id⟩

/-- The font used where none is chosen: that of the settings, else the first. -/
def defaultFontId (project : Project) : String :=
  if project.settings.defaultFontId = "" then (project.fonts.head?.map (·.id)).getD ""
  else project.settings.defaultFontId

/-- What the settings mention. -/
def ofSettings (project : Project) : List Mention :=
  (project.settings.defaultPlayerSprites.map fun entry => ⟨.sprite, entry.2, settingsName⟩) ++
    [⟨.font, defaultFontId project, settingsName⟩]

/-- All that a project mentions. -/
def ofProject (project : Project) (schema : Schema) : List Mention :=
  let visits := Script.walkScenes project.customEvents maxNesting project.scenes
  let all := visits.flatMap (fun v => ofEvent schema project.music v.1.id v.2.event) ++
    project.scenes.flatMap (ofScene project.settings) ++ ofSettings project
  all.filter fun mention => mention.id ≠ ""

/-- Those who mention an asset, sorted and each once. -/
def referrers (mentions : List Mention) (kind : Reference) (id : String) : List String :=
  let found := mentions.filter fun mention => mention.kind = kind && mention.id = id
  ((found.map (·.who)).eraseDups).mergeSort

end Mention

/-- An asset with the entities that mention it, sorted. -/
structure Used (α : Type) where
  asset : α
  referencedBy : List String

/-- The assets that are mentioned, with those who mention them. -/
def pickUsed (mentions : List Mention) (kind : Reference) (idOf : α → String) (assets : List α) :
    List (Used α) :=
  assets.filterMap fun asset =>
    match Mention.referrers mentions kind (idOf asset) with
    | [] => none
    | names => some ⟨asset, names⟩

/-- The assets and variables that a project uses. -/
structure Usage where
  backgrounds : List (Used Background)
  tilesets : List (Used Asset)
  sprites : List (Used SpriteSheet)
  fonts : List (Used Asset)
  avatars : List (Used Asset)
  emotes : List (Used Asset)
  music : List (Used Track)
  sounds : List (Used Track)
  /-- The ids of the variables, in order of first use. -/
  vars : List String

namespace Usage

/-- The variable belongs to the whole game: its id is a number or that of a project variable. -/
def isGlobal (project : Project) (id : String) : Bool :=
  id.toList.all Char.isDigit || project.vars.any (·.id == id)

/-- The used fonts; when none is mentioned, the first font counts as used by the settings. -/
def usedFonts (project : Project) (mentions : List Mention) : List (Used Asset) :=
  match pickUsed mentions .font (·.id) project.fonts with
  | [] => (project.fonts.head?.map fun font => ⟨font, [Mention.settingsName]⟩).toList
  | fonts => fonts

/-- The used music for the active driver.  A piece for the other driver is replaced by the first
piece for the active one, under its own id, or left out when there is none. -/
def usedMusic (project : Project) (mentions : List Mention) : List (Used Track) :=
  let driver := project.settings.musicDriver
  let fallback := project.music.find? fun track => track.driver = driver
  (pickUsed mentions .music (·.id) project.music).filterMap fun used =>
    if used.asset.driver = driver then some used
    else fallback.map fun track => { used with asset := { track with id := used.asset.id } }

/-- The global variables that are mentioned, in the order of their first mention. -/
def usedVariables (project : Project) (mentions : List Mention) : List String :=
  let ids := (mentions.filter fun mention => mention.kind = .variable).map (·.id)
  ids.eraseDups.filter (isGlobal project)

/-- What a project uses. -/
def ofProject (project : Project) (schema : Schema) : Usage :=
  let mentions := Mention.ofProject project schema
  { backgrounds := pickUsed mentions .background (·.id) project.backgrounds
    tilesets := pickUsed mentions .tileset (·.id) project.tilesets
    sprites := pickUsed mentions .sprite (·.id) project.sprites
    fonts := usedFonts project mentions
    avatars := pickUsed mentions .avatar (·.id) project.avatars
    emotes := pickUsed mentions .emote (·.id) project.emotes
    music := usedMusic project mentions
    sounds := pickUsed mentions .sound (·.id) project.sounds
    vars := usedVariables project mentions }

end Usage

end Cartridge
