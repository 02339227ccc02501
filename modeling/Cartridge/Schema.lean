import Cartridge.Script.Event

/-!
# What arguments refer to

A schema says which arguments of an event name an asset, a variable or a scene, and which
commands have to wait until the scene has faded in.  A declaration for one command counts before
the common ones; an argument whose name starts with `$variable` names a variable unless something
else is declared.
-/

namespace Cartridge

/-- What an argument refers to. -/
inductive Reference
  | background
  | sprite
  | music
  | sound
  | font
  | avatar
  | emote
  | tileset
  | variable
  | scene
  deriving DecidableEq

namespace Reference

/-- The name of a kind of references. -/
def name : Reference → String
  | .background => "background"
  | .sprite => "sprite"
  | .music => "music"
  | .sound => "sound"
  | .font => "font"
  | .avatar => "avatar"
  | .emote => "emote"
  | .tileset => "tileset"
  | .variable => "variable"
  | .scene => "scene"

/-- All kinds of references. -/
def all : List Reference :=
  [.background, .sprite, .music, .sound, .font, .avatar, .emote, .tileset, .variable, .scene]

/-- The kind of references of a name. -/
def ofName? (text : String) : Option Reference :=
  all.find? (·.name == text)

end Reference

/-- A declaration for one argument of one command. -/
structure Schema.Declaration where
  command : String
  argument : String
  kind : Reference

/-- The declared arguments and the commands that wait for the fade. -/
structure Schema where
  /-- The latest declaration stands first. -/
  declarations : List Schema.Declaration
  waiting : List String

namespace Schema

/-- Arguments that refer to something in every command. -/
def commonArguments : List (String × Reference) :=
  [("backgroundId", .background), ("spriteSheetId", .sprite), ("musicId", .music),
    ("soundId", .sound), ("fontId", .font), ("avatarId", .avatar), ("emoteId", .emote),
    ("tilesetId", .tileset), ("sceneId", .scene), ("variable", .variable),
    ("vectorX", .variable), ("vectorY", .variable)]

/-- The schema of the commands that every engine has. -/
def builtin : Schema where
  declarations := []
  waiting := ["EVENT_TEXT", "EVENT_CHOICE", "EVENT_MENU", "EVENT_WAIT", "EVENT_AWAIT_INPUT"]

/-- Adds what an argument of a command refers to. -/
def declare (schema : Schema) (command argument : String) (kind : Reference) : Schema :=
  { schema with declarations := ⟨command, argument, kind⟩ :: schema.declarations }

/-- Adds a command that waits. -/
def declareWaiting (schema : Schema) (command : String) : Schema :=
  { schema with waiting := command :: schema.waiting }

/-- What an argument of a command refers to: as declared, as common to all commands, or by its name.
-/
def kind? (schema : Schema) (command argument : String) : Option Reference :=
  match schema.declarations.find? fun d => d.command == command && d.argument == argument with
  | some d => some d.kind
  | none =>
    match Json.Fields.get? commonArguments argument with
    | some kind => some kind
    | none => if "$variable".toList.isPrefixOf argument.toList then some .variable else none

/-- A command waits, so that the screen is seen before the script goes on. -/
def waits (schema : Schema) (command : String) : Bool :=
  schema.waiting.contains command

end Schema

end Cartridge
