import Cartridge.Project.Printer
import Cartridge.Source.Scene

/-!
# Sources that describe the whole game

The names of variables and constants, the types of scenes, where the game starts, the list of
music, and a signature that changes with the project.
-/

namespace Cartridge.Source

open Cartridge.Compile.Template (SceneType)
open Cartridge.Decimal
open Cartridge.Project
open Cartridge.Script (decimal)
open Cartridge.Symbol (Allocator)
open Cartridge.Tables

/-! ## Variables and constants -/

/-- Sets the value of a name: in its place when the name is known, else at the end. -/
def setEntry (name : String) (value : α) : List (String × α) → List (String × α)
  | [] => [(name, value)]
  | (other, old) :: rest =>
    if other = name then (name, value) :: rest else (other, old) :: setEntry name value rest

/-- What a variable would like to be called, and what it is called otherwise. -/
def aliasRequest (project : Project) (id : String) : String × String :=
  let symbol := ((project.vars.find? fun v => v.id = id).map (·.symbol)).getD ""
  (if symbol = "" then "" else "var_" ++ symbol, "var_variable_" ++ id)

/-- The names of used variables, by id; a repeated id keeps its place and takes the last name. -/
def variableAliases (project : Project) (used : List String) : List (String × String) :=
  let names := (Allocator.empty.allocateAll (used.map (aliasRequest project))).1
  (used.zip (names.map Text.upper)).foldl (fun table entry => setEntry entry.1 entry.2 table) []

/-- The names of constants, which are kept apart from each other only. -/
def constantNames (constants : List Constant) : List String :=
  let requests := constants.map fun c => (c.symbol, "constant_" ++ c.id)
  (Allocator.empty.allocateAll requests).1.map Text.upper

/-- The names of the game's variables and constants with their numbers, in order. -/
def globalDefinitions (project : Project) (aliases : List (String × String)) :
    List (String × String) :=
  (aliases.zipIdx.map fun (entry, i) => (entry.2, decimal i)) ++
    ((constantNames project.constants).zip project.constants).map fun (name, c) =>
      (name, integerText c.value.toInt)

/-- The name of the number of variables. -/
def variableCountName : String := "MAX_GLOBAL_VARS"

/-- Variables and constants for listings and for sources. -/
def globalsFiles (project : Project) (aliases : List (String × String)) : List File :=
  let definitions := globalDefinitions project aliases ++
    [(variableCountName, decimal aliases.length)]
  [{ name := "game_globals.i"
     lines := definitions.map fun (name, value) => line (name ++ " = " ++ value) },
    { name := "game_globals.h"
      lines := [line "#ifndef GAME_GLOBALS_H", line "#define GAME_GLOBALS_H", blank] ++
        definitions.map (fun (name, value) => line ("#define " ++ name ++ " " ++ value)) ++
        [blank, line "#endif"] }]

/-! ## Scene types -/

/-- The header with the numbers of the types of scenes in use. -/
def sceneTypesFile (used : List String) (known : List SceneType) : File where
  name := "scene_types.h"
  lines := [line "#ifndef SCENE_TYPES_H", line "#define SCENE_TYPES_H", blank] ++
    (used.zipIdx.flatMap fun (key, i) =>
      let label := ((known.find? fun type => type.key = key).map (·.label)).getD key
      [line ("// " ++ label),
        line ("#define SCENE_TYPE_" ++ Text.upper (Symbol.identifier key) ++ " " ++ decimal i)]) ++
    [line ("#define SCENE_TYPE_COUNT " ++ decimal used.length), blank, line "#endif"]

/-! ## Starting the game -/

/-- The walking speed in sixteenths, rounded, within 32 bits. -/
def moveSpeed (speed : Rounded) : Int :=
  let clamp (n : Int) : Int := max (-Int.pow 2 31) (min (Int.pow 2 31 - 1) n)
  let infinite (negative : Bool) : Int := if negative then -Int.pow 2 31 else Int.pow 2 31 - 1
  match speed with
  | .infinite negative => infinite negative
  | .finite x =>
    match Format.single.mul x ⟨false, 16, 0⟩ with
    | .infinite negative => infinite negative
    | .finite y => clamp y.roundAway

/-- The header that tells the engine where the game starts. -/
def bootstrapFile (project : Project) (tables : Tables) : File :=
  let settings := project.settings
  let start := ((tables.scenes.find? fun s => s.scene.id = settings.startSceneId).or
    tables.scenes.head?).map (·.symbol)
  let font := ((tables.fonts.find? fun f => f.id = settings.defaultFontId).or
    tables.fonts.head?).map (·.symbol)
  { name := "data_bootstrap.h"
    lines := [line "#ifndef DATA_BOOTSTRAP_H", line "#define DATA_BOOTSTRAP_H", blank,
        line "#include \"gbs_types.h\"", line "#include \"bankdata.h\""] ++
      (["game_globals", "scene_types"] ++ start.toList ++ font.toList ++
        ["frame_image", "cursor_image", "spritesheet_none"]).map
        (fun header => [Piece.include header]) ++
      [blank,
        [.text "#define START_SCENE ", .pointer start],
        line ("#define START_SCENE_X " ++ integerText (subpixels settings.startX).number),
        line ("#define START_SCENE_Y " ++ integerText (subpixels settings.startY).number),
        line ("#define START_SCENE_DIR " ++ directionName settings.startDirection),
        line ("#define START_PLAYER_MOVE_SPEED "
          ++ integerText (moveSpeed settings.startMoveSpeed)),
        line ("#define START_PLAYER_ANIM_TICK " ++ decimal settings.startAnimSpeed.toNat),
        [.text "#define UI_FONT ", .pointer font],
        blank, line "static inline void bootstrap_init(void) \x7b\x7d", blank, line "#endif"]
    products := [subpixels settings.startX, subpixels settings.startY] }

/-- The script that runs when the engine starts. -/
def engineInitFiles : List File :=
  scriptFiles
    { symbol := "script_engine_init", entityId := "", slot := "", lock := false
      listing := [.stop] }

/-! ## Music and sounds -/

/-- The tables of the music. -/
def musicTables (music : List AssetData) : List Table :=
  music.map fun piece => bytesTable piece.symbol ("Music: " ++ piece.name) piece.data

/-- The header that includes the music. -/
def musicFile (music : List AssetData) : File where
  name := "music_data.h"
  lines := [line "#ifndef MUSIC_DATA_H", line "#define MUSIC_DATA_H", blank,
      line "#include \"gbs_types.h\"", line "#include \"bankdata.h\"", blank] ++
    music.map (fun piece => [Piece.include piece.symbol]) ++
    [blank, line ("#define MUSIC_TRACK_COUNT " ++ decimal music.length), blank, line "#endif"]

/-- The sources of the sounds, in a folder of their own. -/
def soundFiles (sounds : List AssetData) : List File :=
  sounds.flatMap fun sound =>
    (bytesTable sound.symbol ("Sound: " ++ sound.name) sound.data).filesIn "sounds/"

/-! ## Signature -/

/-- The bytes that the signature is made of: the project and the names of its variables. -/
def signatureBytes (project : Project) (aliases : List (String × String)) : List UInt8 :=
  Text.utf8 project.text ++ aliases.flatMap fun entry => Text.utf8 entry.2

/-- The signature of the game, which saved games have to match. -/
def signatureFile (project : Project) (aliases : List (String × String)) : File :=
  let key := Digest.Key.ofBytes "game-signature" (signatureBytes project aliases)
  { name := "game_signature.c"
    defines := ["game_signature"]
    lines := [line "#pragma bank 255", blank, line "#include \"gbs_types.h\"", blank,
      line ("const UBYTE game_signature[] = \x7b " ++
        Text.joinWith ", " ((key.bytes 8).map fun b => hexByte b.toNat) ++ " \x7d;")] }

end Cartridge.Source
