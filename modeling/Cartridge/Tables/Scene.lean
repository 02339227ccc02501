import Cartridge.Compile.Outcome
import Cartridge.Platform
import Cartridge.Tables.Palette
import Cartridge.Tables.Projectile
import Cartridge.Tables.Sprite

/-!
# Scenes

What is built of each scene: which background it shows, which actors and triggers are kept, which
sprite sheets and projectiles it loads.  The platform limits the numbers; what is beyond a limit
is left out with a warning.
-/

namespace Cartridge.Tables

open Cartridge.Compile (Outcome Error)
open Cartridge.Digest (Key)
open Cartridge.Json
open Cartridge.Project
open Cartridge.Script (Event Owner Visit)
open Cartridge.Symbol (Allocator)

/-- An entity with the symbol it is generated under. -/
structure Placed (α : Type) where
  entity : α
  symbol : String

/-- A scene as it is built. -/
structure SceneEntry where
  index : Nat
  scene : Scene
  symbol : String
  name : String
  /-- The place of its background. -/
  background : Nat
  spriteMode : SpriteMode
  playerSprite : Option String
  actors : List (Placed Actor)
  triggers : List (Placed Trigger)
  /-- The sprite sheets loaded with the scene, in order of first use. -/
  sprites : List String
  projectiles : List Projectile
  /-- Actors whose sprite sheet is changed by scripts, with the most tiles they need. -/
  exclusive : List (String × Nat)
  key : Key

/-! ## The key of a scene -/

/-- What the key of a scene is made of: everything that shapes the scripts compiled for it. -/
def sceneCalls (projectiles : List Key) (scene : Scene) (auto : Option (List Palette)) :
    List Digest.Call :=
  .tag "projectiles" :: Digest.countCall projectiles.length ::
    (projectiles.map fun key => .text key.text) ++
    [.flag (!scene.parallax), .text scene.type] ++
    Digest.calls scene.paletteIds ++ Digest.calls scene.spritePaletteIds ++
    match auto with
    | some palettes => .tag "auto" :: Digest.calls palettes
    | none => [.none]

/-- The key of a scene. -/
def sceneKey (projectiles : List Key) (scene : Scene) (auto : Option (List Palette)) : Key :=
  .ofCalls "scene" (sceneCalls projectiles scene auto)

/-! ## What the scripts of a scene use -/

/-- The visited events that name a sprite sheet, with the sheet. -/
def spriteVisits (visits : List (Owner × Visit)) : List (Owner × Event × String) :=
  visits.filterMap fun visit =>
    (visit.2.event.text? "spriteSheetId").map fun sheet => (visit.1, visit.2.event, sheet)

/-- The event gives something another sprite sheet. -/
def changesSprite (event : Event) : Bool :=
  event.command == Script.Command.setActorSprite || event.command == Script.Command.setPlayerSprite

/-- The sprite sheets that events show or launch. -/
def shownSprites (visits : List (Owner × Event × String)) : List String :=
  (visits.filter fun visit => !changesSprite visit.2.1).map (·.2.2)

/-- The projectiles that a scene launches, each once. -/
def launchedProjectiles (visits : List (Owner × Event × String)) : List Projectile :=
  let launches := visits.filter fun visit => visit.2.1.command == Script.Command.launchProjectile
  distinctBy (·.key.text) (launches.filterMap fun visit => Projectile.ofEvent? visit.2.1)

/-- The name of the player as an actor. -/
def playerName : String := "player"

/-- Whose sprite sheet an event changes; in the script of an actor, the actor may be called
`$self$`. -/
def changedActor (owner : Owner) (event : Event) : String :=
  if event.command == Script.Command.setPlayerSprite then playerName
  else
    let actor := (event.text? "actorId").getD ""
    if actor == "$self$" then
      match owner with
      | .actor _ self => self.id
      | _ => playerName
    else actor

/-- The actors whose sprite sheet is changed, each with the most tiles it needs. -/
def exclusiveActors (sprites : Sprites) (mode : SpriteMode)
    (visits : List (Owner × Event × String)) : List (String × Nat) :=
  let changes := visits.filter fun visit => changesSprite visit.2.1
  changes.foldl (fun needed visit =>
    let actor := changedActor visit.1 visit.2.1
    let count := ((sprites.get? visit.2.2).map (·.tilesIn mode)).getD 0
    Fields.insert actor (max count ((Fields.get? needed actor).getD 0)) needed) []

/-! ## Building a scene -/

/-- What scenes are built from. -/
structure SceneInput where
  project : Project
  limits : Platform.Limits
  backgrounds : Backgrounds
  sprites : Sprites

/-- What a scene is called in warnings. -/
def sceneLabel (scene : Scene) (symbol : String) : String :=
  if scene.name == "" then "'" ++ symbol ++ "'"
  else "'" ++ symbol ++ "' : '" ++ scene.name ++ "'"

/-- The warning about more things than fit. -/
def warnExcess (label what : String) (count limit : Nat) : Outcome Unit :=
  .warnIf (limit < count)
    ("Error in scene " ++ label ++ " contains " ++ toString count ++ " " ++ what ++
      " when maximum is " ++ toString limit ++ ". Some " ++ what ++ " will be removed.")

/-- The kept actors: among the first ones, those with a sprite sheet that is built. -/
def keptActors (input : SceneInput) (scene : Scene) : List Actor :=
  (scene.actors.take input.limits.actors).filter fun actor =>
    (input.sprites.get? actor.spriteSheetId).isSome

/-- The kept triggers: among the first ones, those that do something. -/
def keptTriggers (input : SceneInput) (scene : Scene) : List Trigger :=
  (scene.triggers.take input.limits.triggers).filter fun trigger => !trigger.isInert

/-- Gives symbols to entities; each has a numbered one to fall back to. -/
def placeAll (word : String) (symbolOf : α → String) (items : List α) (a : Allocator) :
    List (Placed α) × Allocator :=
  let requests := items.zipIdx.map fun (item, i) => (symbolOf item, word ++ "_" ++ toString i)
  let (names, a) := a.allocateAll requests
  ((items.zip names).map fun (item, name) => ⟨item, name⟩, a)

/-- The player's sprite sheet in a scene.  Without one, the first sheet is used, with a warning;
logo scenes have no player. -/
def choosePlayerSprite (input : SceneInput) (scene : Scene) : Outcome (Option String) :=
  let chosen := input.sprites.get? (Mention.playerSpriteId input.project.settings scene)
  match chosen with
  | some sprite => .ok (some sprite.id)
  | none =>
    if scene.type == "LOGO" then .ok none
    else
      .withWarnings
        ["No player sprite set for scene type " ++ scene.type ++
          ", using the first available sprite"]
        (input.sprites.entries.head?.map (·.id))

/-- The sprite sheets loaded with a scene: those of the kept actors that keep their sheet, then
those that events show, each once. -/
def loadedSprites (input : SceneInput) (actors : List (Placed Actor))
    (exclusive : List (String × Nat)) (shown : List String) : List String :=
  let own := (actors.filter fun actor => (Fields.get? exclusive actor.entity.id).isNone).map
    (·.entity.spriteSheetId)
  ((own ++ shown).filter fun id => (input.sprites.get? id).isSome).eraseDups

/-- Warns when loaded sheets are drawn for the other sprite size. -/
def warnMismatch (input : SceneInput) (name : String) (mode : SpriteMode)
    (loaded : List String) : Outcome Unit :=
  let mismatched := (loaded.filterMap input.sprites.get?).filter fun sprite => sprite.mode ≠ mode
  match mismatched with
  | [] => .ok ()
  | first :: _ =>
    .warn ("Scene '" ++ name ++ "' uses " ++ mode.name ++ " sprite mode but sprites " ++
      Text.joinWith ", " (mismatched.map (·.name)) ++ " use " ++ first.mode.name ++
      ", they may not display correctly.")

/-- Keeps the first projectiles, with a warning when there are more. -/
def limitProjectiles (limit : Nat) (name : String) (projectiles : List Projectile) :
    Outcome (List Projectile) :=
  if limit < projectiles.length then
    .withWarnings
      ["Scene '" ++ name ++ "' contains " ++ toString projectiles.length ++
        " unique projectiles when maximum is " ++ toString limit ++
        ". Some projectiles will be removed."]
      (projectiles.take limit)
  else .ok projectiles

/-- Builds the entry of a scene; what does not fit is left out with a warning. -/
def buildScene (input : SceneInput) (index : Nat) (scene : Scene) (a : Allocator) :
    Outcome (SceneEntry × Allocator) := do
  let (symbol, a) := a.allocate scene.symbol ("scene_" ++ toString (index + 1))
  let name := scene.displayName index
  let label := sceneLabel scene symbol
  let exact := input.backgrounds.findVariant? scene.backgroundId scene.tilesetId
  let some place := exact.or (input.backgrounds.find? scene.backgroundId)
    | Outcome.fail (.missingBackground name)
  .warnIf exact.isNone
    ("Error in scene " ++ label ++ " includes a common tileset that can't be located.")
  let mode := scene.spriteMode.getD input.project.settings.spriteMode
  warnExcess label "actors" scene.actors.length input.limits.actors
  warnExcess label "triggers" scene.triggers.length input.limits.triggers
  let (actors, a) := placeAll (symbol ++ "_actor") (·.symbol) (keptActors input scene) a
  let (triggers, a) := placeAll (symbol ++ "_trigger") (·.symbol) (keptTriggers input scene) a
  let playerSprite ← choosePlayerSprite input scene
  let visits := spriteVisits (Script.walkScene input.project.customEvents maxNesting scene)
  let exclusive := exclusiveActors input.sprites mode visits
  let loaded := loadedSprites input actors exclusive (shownSprites visits)
  warnMismatch input name mode loaded
  let projectiles ← limitProjectiles input.limits.projectiles name (launchedProjectiles visits)
  let auto := input.backgrounds.entries[place]?.bind (·.autoPalettes)
  return ({
    index := index
    scene := scene
    symbol := symbol
    name := name
    background := place
    spriteMode := mode
    playerSprite := playerSprite
    actors := actors
    triggers := triggers
    sprites := loaded
    projectiles := projectiles
    exclusive := exclusive
    key := sceneKey (projectiles.map (·.key)) scene auto }, a)

/-- Builds the entries of scenes, which are counted from the given number on. -/
def buildScenes (input : SceneInput) (index : Nat) :
    List Scene → Allocator → Outcome (List SceneEntry × Allocator)
  | [], a => .ok ([], a)
  | scene :: rest, a => do
    let (entry, a) ← buildScene input index scene a
    let (entries, a) ← buildScenes input (index + 1) rest a
    return (entry :: entries, a)

end Cartridge.Tables
