import Cartridge.Script.Fade
import Cartridge.Script.Lowering
import Cartridge.Script.Variants
import Cartridge.Tables.Basic

/-!
# The scripts of scenes

Every scene has a script that starts it: the start scripts of its actors, then its own script,
with the automatic fade.  Besides, there is one script for what hits the player, two for every
actor and one for every trigger.  A script with nothing to run is left out, except a starting
script that fades in.
-/

namespace Cartridge.Compile

open Cartridge.Project
open Cartridge.Script
open Cartridge.Tables (SceneEntry Placed)

/-- Which script of an entity is compiled. -/
inductive Role
  | init
  | playerHit
  | interact
  | update
  deriving DecidableEq

/-- The role in the symbol of a script. -/
def Role.code : Role → String
  | .init => "init"
  | .playerHit => "p_hit1"
  | .interact => "interact"
  | .update => "update"

/-- The field of the entity that holds the script. -/
def Role.slot : Role → String
  | .init => "script"
  | .playerHit => "playerHit1Script"
  | .interact => "script"
  | .update => "updateScript"

/-- The symbols of the compiled scripts of a scene; nothing where none was compiled. -/
structure SceneScripts where
  init : Option String
  playerHit : Option String
  actors : List (Option String)
  updates : List (Option String)
  triggers : List (Option String)

/-! ## Starting a scene -/

/-- The event that names the entity of the events behind it. -/
def contextEvent (kind id slot : String) : Event where
  command := Command.setContext
  args := [("entityId", .string id), ("entityType", .string kind), ("scriptKey", .string slot)]

/-- The start of an actor: its script without its ends. -/
def actorStart (actor : Actor) : List Event :=
  if actor.startScript.isEmpty then []
  else
    contextEvent "actor" actor.id "startScript" ::
      actor.startScript.filter fun event => event.command ≠ Command.stop

/-- What a scene does at its start: its actors first, then its own script. -/
def startEvents (entry : SceneEntry) : List Event :=
  (entry.actors.flatMap fun actor => actorStart actor.entity) ++
    [contextEvent "scene" entry.scene.id "script",
      { command := Command.setSpriteMode, args := [("mode", .string entry.spriteMode.name)] }] ++
    entry.scene.script

/-! ## Compiling -/

/-- How a script of an entity is compiled. -/
structure Request where
  entityId : String
  entitySymbol : String
  role : Role
  events : List Event
  lock : Bool := false
  looped : Bool := false
  keepIdle : Bool := false

/-- Compiles a script of an entity; one with nothing to run is left out. -/
def compileScript (scope : Scope) (request : Request) (session : Session) :
    Option String × Session :=
  if isIdle request.events && !(request.role == .init && request.keepIdle) then (none, session)
  else
    let (symbol, symbols) :=
      session.symbols.allocate (request.entitySymbol ++ "_" ++ request.role.code) "script"
    let code := lowerScript scope maxNesting request.events { session with symbols := symbols }
    (some symbol, code.2.add
      { symbol := symbol
        entityId := request.entityId
        slot := request.role.slot
        lock := request.lock
        listing := if request.looped then loopedListing code.1 else entityListing code.1 })

/-- Compiles what a scene does at its start, with the fade that it may need. -/
def compileStart (scope : Scope) (entry : SceneEntry) (session : Session) :
    Option String × Session :=
  compileScript scope
    { entityId := entry.scene.id
      entitySymbol := entry.symbol
      role := .init
      events := addFade scope.schema scope.library entry.scene.autoFadeSpeed (startEvents entry)
      lock := true
      keepIdle := entry.scene.autoFadeSpeed.isSome } session

/-- Compiles what happens when the player is hit, for all groups in one script. -/
def compilePlayerHit (scope : Scope) (entry : SceneEntry) (session : Session) :
    Option String × Session :=
  compileScript scope
    { entityId := entry.scene.id
      entitySymbol := entry.symbol
      role := .playerHit
      events := joinVariants .playerHit
        [⟨0, 2, entry.scene.playerHit1Script⟩, ⟨0, 4, entry.scene.playerHit2Script⟩,
          ⟨0, 8, entry.scene.playerHit3Script⟩] } session

/-- Compiles what an actor does all the time, if that is anything. -/
def compileUpdate (scope : Scope) (actor : Placed Actor) (session : Session) :
    Option String × Session :=
  if actor.entity.updateScript.isEmpty then (none, session)
  else
    compileScript scope
      { entityId := actor.entity.id
        entitySymbol := actor.symbol
        role := .update
        events := actor.entity.updateScript
        looped := true } session

/-- The request for what an actor does when the player or something else meets it. -/
def interactRequest (actor : Placed Actor) : Request :=
  if actor.entity.collisionGroup == "" then
    { entityId := actor.entity.id
      entitySymbol := actor.symbol
      role := .interact
      events := actor.entity.script
      lock := true }
  else
    { entityId := actor.entity.id
      entitySymbol := actor.symbol
      role := .interact
      events := joinVariants .collision
        [⟨0, 0, actor.entity.script⟩, ⟨0, 2, actor.entity.hit1Script⟩,
          ⟨0, 4, actor.entity.hit2Script⟩, ⟨0, 8, actor.entity.hit3Script⟩] }

/-- The joined enter and leave scripts of a trigger. -/
def triggerEvents (trigger : Trigger) : List Event :=
  joinVariants .trigger [⟨0, 1, trigger.script⟩, ⟨0, 2, trigger.leaveScript⟩]

/-- What is asked for a trigger. -/
def triggerRequest (trigger : Placed Trigger) : Request where
  entityId := trigger.entity.id
  entitySymbol := trigger.symbol
  role := .interact
  events := triggerEvents trigger.entity
  lock := true

/-- Compiles the scripts of actors, for each the update script before the other one. -/
def compileActors (scope : Scope) :
    List (Placed Actor) → Session → List (Option String × Option String) × Session
  | [], session => ([], session)
  | actor :: rest, session =>
    let update := compileUpdate scope actor session
    let interact := compileScript scope (interactRequest actor) update.2
    let others := compileActors scope rest interact.2
    ((interact.1, update.1) :: others.1, others.2)

/-- Compiles the scripts of triggers. -/
def compileTriggers (scope : Scope) :
    List (Placed Trigger) → Session → List (Option String) × Session
  | [], session => ([], session)
  | trigger :: rest, session =>
    let first := compileScript scope (triggerRequest trigger) session
    let others := compileTriggers scope rest first.2
    (first.1 :: others.1, others.2)

/-- Compiles the scripts of a scene: its start, hits, actors and triggers, in this order. -/
def compileScene (scope : Scope) (entry : SceneEntry) (session : Session) :
    SceneScripts × Session :=
  let init := compileStart scope entry session
  let playerHit := compilePlayerHit scope entry init.2
  let actors := compileActors scope entry.actors playerHit.2
  let triggers := compileTriggers scope entry.triggers actors.2
  ({ init := init.1
     playerHit := playerHit.1
     actors := actors.1.map (·.1)
     updates := actors.1.map (·.2)
     triggers := triggers.1 }, triggers.2)

/-- Compiles the scripts of scenes one after the other. -/
def compileScenes (scope : Scope) :
    List SceneEntry → Session → List SceneScripts × Session
  | [], session => ([], session)
  | entry :: rest, session =>
    let first := compileScene scope entry session
    let others := compileScenes scope rest first.2
    (first.1 :: others.1, others.2)

end Cartridge.Compile
