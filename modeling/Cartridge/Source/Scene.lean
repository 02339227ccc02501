import Cartridge.Compile.SceneScripts
import Cartridge.Source.Data

/-!
# Sources of scenes

A scene is a table that points to the tables of its parts: collisions, actors, triggers, sprites
and projectiles.  A part without entries has no table, and the scene points to nothing there.
-/

namespace Cartridge.Source

open Cartridge.Compile (SceneScripts)
open Cartridge.Json
open Cartridge.Project
open Cartridge.Script (decimal)
open Cartridge.Tables

/-- The script at a place of a list, if there is one. -/
def scriptAt (scripts : List (Option String)) (i : Nat) : Option String :=
  (scripts[i]?).bind id

/-- The items without repetitions of neighbours. -/
def dropRepeats : List String → List String
  | [] => []
  | [a] => [a]
  | a :: b :: rest => if a = b then dropRepeats (b :: rest) else a :: dropRepeats (b :: rest)

/-- The name of a direction; what is no direction counts as down. -/
def directionName (direction : String) : String :=
  if direction = "up" then "DIR_UP"
  else if direction = "left" then "DIR_LEFT"
  else if direction = "right" then "DIR_RIGHT"
  else "DIR_DOWN"

/-- The bit of a collision group. -/
def collisionBit (group : String) : UInt8 :=
  if group = "player" then 0x01
  else if group = "1" then 0x02
  else if group = "2" then 0x04
  else if group = "3" then 0x08
  else 0x00

/-- A coordinate that is not negative. -/
def clampCoordinate (x : Int32) : Int32 :=
  if x < 0 then 0 else x

/-- A coordinate in sixteenths of a pixel. -/
def subpixels (x : Int32) : WordProduct :=
  ⟨.int32, (clampCoordinate x).toInt, 16⟩

/-- A number with its sign in decimal. -/
def integerText (n : Int) : String :=
  if n < 0 then "-" ++ decimal n.natAbs else decimal n.toNat

/-- The symbol of a sprite sheet. -/
def sheetSymbol? (tables : Tables) (id : String) : Option String :=
  (tables.sprites.get? id).map (·.symbol)

/-! ## Parts of a scene -/

/-- The lines of an actor. -/
def actorLines (tables : Tables) (actor : Actor) (script update : Option String) : List Line :=
  [line "    \x7b",
    line ("        // " ++ if actor.name = "" then actor.id else actor.name),
    line ("        .x = " ++ integerText (subpixels actor.x).number ++ ","),
    line ("        .y = " ++ integerText (subpixels actor.y).number ++ ","),
    line ("        .dir = " ++ directionName actor.direction ++ ","),
    [.text "        .sprite = ", .pointer (sheetSymbol? tables actor.spriteSheetId), .text ","],
    line ("        .collision_group = " ++ hexByte (collisionBit actor.collisionGroup).toNat ++
      ","),
    [.text "        .script = ", .pointer script, .text ","],
    [.text "        .script_update = ", .pointer update],
    line "    \x7d,"]

/-- The position of an actor. -/
def actorProducts (actor : Actor) : List WordProduct :=
  [subpixels actor.x, subpixels actor.y]

/-- The table of the actors of a scene, if it has any. -/
def actorsTable? (tables : Tables) (entry : SceneEntry) (scripts : SceneScripts) :
    Option Table :=
  if entry.actors.isEmpty then none
  else
    let symbol := entry.symbol ++ "_actors"
    let numbered := entry.actors.zipIdx
    some
      { symbol := symbol
        declaration := "const actor_t " ++ symbol ++ "[]"
        title := "Scene " ++ entry.name ++ " actors"
        headers := dropRepeats (numbered.flatMap fun (actor, i) =>
          (sheetSymbol? tables actor.entity.spriteSheetId).toList ++
            (scriptAt scripts.actors i).toList ++ (scriptAt scripts.updates i).toList)
        body := line ("const actor_t " ++ symbol ++ "[] = \x7b") ::
          (numbered.flatMap fun (actor, i) =>
            actorLines tables actor.entity (scriptAt scripts.actors i)
              (scriptAt scripts.updates i)) ++ [line "\x7d;"]
        products := entry.actors.flatMap fun actor => actorProducts actor.entity }

/-- The lines of a trigger. -/
def triggerLines (trigger : Trigger) (script : Option String) : List Line :=
  [line "    \x7b",
    line ("        .x = " ++ integerText (clampCoordinate trigger.x).toInt ++ ", .y = " ++
      integerText (clampCoordinate trigger.y).toInt ++ ", .width = " ++
      decimal trigger.width.toNat ++ ", .height = " ++ decimal trigger.height.toNat ++ ","),
    [.text "        .script = ", .pointer script],
    line "    \x7d,"]

/-- The table of the triggers of a scene, if it has any. -/
def triggersTable? (entry : SceneEntry) (scripts : SceneScripts) : Option Table :=
  if entry.triggers.isEmpty then none
  else
    let symbol := entry.symbol ++ "_triggers"
    some
      { symbol := symbol
        declaration := "const trigger_t " ++ symbol ++ "[]"
        title := "Scene " ++ entry.name ++ " triggers"
        headers := scripts.triggers.filterMap id
        body := line ("const trigger_t " ++ symbol ++ "[] = \x7b") ::
          (entry.triggers.zipIdx.flatMap fun (trigger, i) =>
            triggerLines trigger.entity (scriptAt scripts.triggers i)) ++ [line "\x7d;"] }

/-- The table of the sprite sheets of a scene, if it has any. -/
def spritesTable? (tables : Tables) (entry : SceneEntry) : Option Table :=
  let sheets := entry.sprites.filterMap (sheetSymbol? tables)
  if sheets.isEmpty then none
  else
    let symbol := entry.symbol ++ "_sprites"
    some
      { symbol := symbol
        declaration := "const far_ptr_t " ++ symbol ++ "[]"
        title := "Scene " ++ entry.name ++ " sprites"
        headers := sheets
        body := line ("const far_ptr_t " ++ symbol ++ "[] = \x7b") ::
          sheets.map (fun sheet => [.text "    ", .pointer (some sheet), .text ","]) ++
          [line "\x7d;"] }

/-- The whole part of a number argument that is not negative, as a 64-bit word; larger numbers
count as the largest word. -/
def wordArg (args : Fields) (name : String) (default : UInt64) : UInt64 :=
  match (Fields.get? args name).bind Value.double? with
  | none => default
  | some x =>
    if x.negative then 0
    else if Nat.pow 2 64 ≤ x.truncate then UInt64.ofNat (Nat.pow 2 64 - 1)
    else UInt64.ofNat x.truncate

/-- The bits of the groups that a projectile hits. -/
def collisionMask (args : Fields) : UInt8 :=
  match Fields.get? args "collisionMask" with
  | some (.array groups) =>
    (groups.filterMap Value.string?).foldl (fun mask group => mask ||| collisionBit group) 0
  | _ => 0

/-- The time that a projectile lives, in frames. -/
def lifeTime (args : Fields) : WordProduct :=
  ⟨.uint64, (wordArg args "lifeTime" 1).toNat, 60⟩

/-- The lines of a projectile; its time is counted in frames. -/
def projectileLines (tables : Tables) (projectile : Projectile) : List Line :=
  let args := projectile.args
  let group := ((Fields.get? args "collisionGroup").bind Value.string?).getD ""
  [line "    \x7b",
    [.text "        .sprite = ", .pointer (sheetSymbol? tables projectile.spriteSheetId),
      .text ","],
    line ("        .move_speed = " ++ decimal (min (wordArg args "speed" 2) 255).toNat ++ ","),
    line ("        .life_time = " ++ decimal (lifeTime args).number.toNat ++ ","),
    line ("        .collision_group = " ++ hexByte (collisionBit group).toNat ++ ","),
    line ("        .collision_mask = " ++ hexByte (collisionMask args).toNat),
    line "    \x7d,"]

/-- The table of the projectiles of a scene, if it has any. -/
def projectilesTable? (tables : Tables) (entry : SceneEntry) : Option Table :=
  if entry.projectiles.isEmpty then none
  else
    let symbol := entry.symbol ++ "_projectiles"
    some
      { symbol := symbol
        declaration := "const projectile_def_t " ++ symbol ++ "[]"
        title := "Scene " ++ entry.name ++ " projectiles"
        headers := entry.projectiles.filterMap fun p => sheetSymbol? tables p.spriteSheetId
        body := line ("const projectile_def_t " ++ symbol ++ "[] = \x7b") ::
          entry.projectiles.flatMap (projectileLines tables) ++ [line "\x7d;"]
        products := entry.projectiles.map fun projectile => lifeTime projectile.args }

/-- The number of places of a scene. -/
def placeCount (scene : Scene) : WordProduct :=
  ⟨.uint32, scene.width.toNat, scene.height.toNat⟩

/-- The collisions of a scene, cut or filled up with zeros to its size. -/
def collisionData (scene : Scene) : List UInt8 :=
  let size := (placeCount scene).number.toNat
  scene.collisions.take size ++ List.replicate (size - scene.collisions.length) 0

/-- The table of the collisions of a scene. -/
def collisionsTable (entry : SceneEntry) : Table :=
  { bytesTable (entry.symbol ++ "_collisions") ("Scene " ++ entry.name ++ " collisions")
      (collisionData entry.scene) with
    products := [placeCount entry.scene] }

/-! ## The scene itself -/

/-- What a scene table points to. -/
structure SceneParts where
  background : Option String
  collisions : String
  palette : Option String
  spritePalette : Option String
  playerSprite : Option String
  actors : Option String
  triggers : Option String
  sprites : Option String
  projectiles : Option String
  init : Option String
  playerHit : Option String

/-- The headers that the table of a scene includes. -/
def SceneParts.headers (parts : SceneParts) : List String :=
  dropRepeats (parts.background.toList ++ [parts.collisions] ++ parts.palette.toList ++
    parts.spritePalette.toList ++ parts.playerSprite.toList ++ parts.actors.toList ++
    parts.triggers.toList ++ parts.sprites.toList ++ parts.projectiles.toList ++
    parts.init.toList ++ parts.playerHit.toList)

/-- A field of a scene that points to something. -/
def pointerField (name : String) (symbol : Option String) : Line :=
  [.text ("    ." ++ name ++ " = "), .pointer symbol, .text ","]

/-- The line of a field with a number. -/
def numberField (name : String) (n : Nat) : Line :=
  line ("    ." ++ name ++ " = " ++ decimal n ++ ",")

/-- The table of a scene itself, which points to its parts. -/
def sceneTable (entry : SceneEntry) (type : Nat) (parts : SceneParts) : Table where
  symbol := entry.symbol
  declaration := "const scene_t " ++ entry.symbol
  title := "Scene: " ++ entry.name
  headers := parts.headers
  body :=
    [line ("const scene_t " ++ entry.symbol ++ " = \x7b"),
      numberField "width" entry.scene.width.toNat,
      numberField "height" entry.scene.height.toNat,
      numberField "type" type,
      numberField "parallax" (if entry.scene.parallax then 1 else 0),
      pointerField "background" parts.background,
      pointerField "collisions" (some parts.collisions),
      pointerField "palette" parts.palette,
      pointerField "sprite_palette" parts.spritePalette,
      pointerField "player_sprite" parts.playerSprite,
      numberField "n_actors" entry.actors.length,
      numberField "n_triggers" entry.triggers.length,
      numberField "n_sprites" (if parts.sprites.isSome then entry.sprites.length else 0),
      numberField "n_projectiles" entry.projectiles.length,
      pointerField "actors" parts.actors,
      pointerField "triggers" parts.triggers,
      pointerField "sprites" parts.sprites,
      pointerField "projectiles" parts.projectiles,
      pointerField "script_init" parts.init,
      [.text "    .script_p_hit1 = ", .pointer parts.playerHit],
      line "\x7d;"]

/-- The name of the palette set at a place, if there is one. -/
def paletteAt (tables : Tables) (places : List (String × Nat)) (sceneId : String) :
    Option String :=
  (lastOf? places sceneId).bind fun place =>
    if place < tables.palettes.sets.length then some (paletteSymbol place) else none

/-- The tables of a scene, in the order in which they are written. -/
def sceneTables (tables : Tables) (types : List String) (entry : SceneEntry)
    (scripts : SceneScripts) : List Table :=
  let collisions := collisionsTable entry
  let actors := actorsTable? tables entry scripts
  let triggers := triggersTable? entry scripts
  let sprites := spritesTable? tables entry
  let projectiles := projectilesTable? tables entry
  let parts : SceneParts :=
    { background := (tables.backgrounds.entries[entry.background]?).map (·.symbol)
      collisions := collisions.symbol
      palette := paletteAt tables tables.palettes.sceneBackground entry.scene.id
      spritePalette := paletteAt tables tables.palettes.sceneSprites entry.scene.id
      playerSprite := entry.playerSprite.bind (sheetSymbol? tables)
      actors := actors.map (·.symbol)
      triggers := triggers.map (·.symbol)
      sprites := sprites.map (·.symbol)
      projectiles := projectiles.map (·.symbol)
      init := scripts.init
      playerHit := scripts.playerHit }
  let type := (types.findIdx? (· == entry.scene.type)).getD 0
  [collisions] ++ actors.toList ++ triggers.toList ++ sprites.toList ++ projectiles.toList ++
    [sceneTable entry type parts]

end Cartridge.Source
