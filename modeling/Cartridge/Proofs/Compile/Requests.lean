import Mathlib.Tactic.Common
import Cartridge.Compile.SceneScripts
import Cartridge.Proofs.Script.Sharing

/-!
# Scenes as lists of requests

Compiling a scene answers one request after the other: the script that starts the scene, the one
for what hits the player, two for every actor and one for every trigger.  For the session nothing
else counts, so a run over scenes is a run over the requests of the scenes (`compileScenes_snd`).
-/

namespace Cartridge.Compile

open Cartridge.Project
open Cartridge.Script
open Cartridge.Tables (SceneEntry Placed)

/-! ## The requests of a scene -/

/-- The request for the script that starts a scene. -/
def startRequest (scope : Scope) (entry : SceneEntry) : Request where
  entityId := entry.scene.id
  entitySymbol := entry.symbol
  role := .init
  events := addFade scope.schema scope.library entry.scene.autoFadeSpeed (startEvents entry)
  lock := true
  keepIdle := entry.scene.autoFadeSpeed.isSome

/-- The request for what hits the player. -/
def playerHitRequest (entry : SceneEntry) : Request where
  entityId := entry.scene.id
  entitySymbol := entry.symbol
  role := .playerHit
  events := joinVariants .playerHit
    [⟨0, 2, entry.scene.playerHit1Script⟩, ⟨0, 4, entry.scene.playerHit2Script⟩,
      ⟨0, 8, entry.scene.playerHit3Script⟩]

/-- The request for what an actor does all the time. -/
def updateRequest (actor : Placed Actor) : Request where
  entityId := actor.entity.id
  entitySymbol := actor.symbol
  role := .update
  events := actor.entity.updateScript
  looped := true

/-- The requests of a scene, in the order in which they are answered. -/
def sceneRequests (scope : Scope) (entry : SceneEntry) : List Request :=
  startRequest scope entry :: playerHitRequest entry ::
    (entry.actors.flatMap (fun actor => [updateRequest actor, interactRequest actor]) ++
      entry.triggers.map triggerRequest)

/-- The session after a list of requests. -/
def compileAll (scope : Scope) (requests : List Request) (session : Session) : Session :=
  requests.foldl (fun s request => (compileScript scope request s).2) session

/-! ## Single requests -/

/-- Nothing is compiled for the request. -/
def Request.isSkipped (request : Request) : Bool :=
  isIdle request.events && !(request.role == .init && request.keepIdle)

/-- The symbol and the allocator for a request that is compiled. -/
def Request.allocate (request : Request) (session : Session) : String × Symbol.Allocator :=
  session.symbols.allocate (request.entitySymbol ++ "_" ++ request.role.code) "script"

/-- The script of an entity. -/
def entityScript (request : Request) (symbol : String) (code : List Code) : Compiled where
  symbol := symbol
  entityId := request.entityId
  slot := request.role.slot
  lock := request.lock
  listing := if request.looped then loopedListing code else entityListing code

lemma compileScript_of_skipped {request : Request} (h : request.isSkipped = true) (scope : Scope)
    (session : Session) : compileScript scope request session = (none, session) := by
  rw [Request.isSkipped] at h
  rw [compileScript, if_pos h]

lemma compileScript_of_not_skipped {request : Request} (h : request.isSkipped = false)
    (scope : Scope) (session : Session) :
    compileScript scope request session =
      let symbol := (request.allocate session).1
      let code := lowerScript scope maxNesting request.events
        { session with symbols := (request.allocate session).2 }
      (some symbol, code.2.add (entityScript request symbol code.1)) := by
  rw [Request.isSkipped] at h
  rw [compileScript, if_neg (ne_true_of_eq_false h)]
  rfl

/-- An empty script is skipped like any other idle one. -/
lemma compileUpdate_eq (scope : Scope) (actor : Placed Actor) (session : Session) :
    compileUpdate scope actor session = compileScript scope (updateRequest actor) session := by
  rw [compileUpdate]
  split_ifs with hempty
  · have hskipped : (updateRequest actor).isSkipped = true := by
      have hnil : actor.entity.updateScript = [] := List.isEmpty_iff.mp hempty
      simp [Request.isSkipped, updateRequest, hnil, isIdle]
    rw [compileScript_of_skipped hskipped]
  · rfl

/-! ## Runs over scenes -/

lemma compileAll_append (scope : Scope) (first second : List Request) (session : Session) :
    compileAll scope (first ++ second) session =
      compileAll scope second (compileAll scope first session) :=
  List.foldl_append

lemma compileActors_snd (scope : Scope) (actors : List (Placed Actor)) (session : Session) :
    (compileActors scope actors session).2 =
      compileAll scope (actors.flatMap fun actor => [updateRequest actor, interactRequest actor])
        session := by
  induction actors generalizing session with
  | nil => rfl
  | cons actor rest ih =>
    rw [compileActors, List.flatMap_cons, compileAll_append, ih, compileUpdate_eq]
    rfl

lemma compileTriggers_snd (scope : Scope) (triggers : List (Placed Trigger)) (session : Session) :
    (compileTriggers scope triggers session).2 =
      compileAll scope (triggers.map triggerRequest) session := by
  induction triggers generalizing session with
  | nil => rfl
  | cons trigger rest ih =>
    rw [compileTriggers, ih]
    rfl

lemma compileScene_snd (scope : Scope) (entry : SceneEntry) (session : Session) :
    (compileScene scope entry session).2 =
      compileAll scope (sceneRequests scope entry) session := by
  rw [compileScene]
  show (compileTriggers scope entry.triggers _).2 = _
  rw [compileTriggers_snd, compileActors_snd, ← compileAll_append]
  rfl

lemma compileScenes_snd (scope : Scope) (entries : List SceneEntry) (session : Session) :
    (compileScenes scope entries session).2 =
      compileAll scope (entries.flatMap (sceneRequests scope)) session := by
  induction entries generalizing session with
  | nil => rfl
  | cons entry rest ih =>
    rw [compileScenes, List.flatMap_cons, compileAll_append, ih, compileScene_snd]

end Cartridge.Compile
