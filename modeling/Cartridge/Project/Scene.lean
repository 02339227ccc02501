import Cartridge.Project.Asset
import Cartridge.Script.Event

/-!
# Scenes and what stands in them

A scene has a background, actors and triggers.  Each of the three kinds of entity has scripts in
named slots.
-/

namespace Cartridge.Project

open Cartridge.Script (Event)

/-- A script in a slot. -/
abbrev Slot := String × List Event

/-- A character of a scene. -/
structure Actor where
  id : String := ""
  name : String := ""
  symbol : String := ""
  spriteSheetId : String := ""
  x : Int32 := 0
  y : Int32 := 0
  direction : String := ""
  collisionGroup : String := ""
  script : List Event := []
  startScript : List Event := []
  updateScript : List Event := []
  hit1Script : List Event := []
  hit2Script : List Event := []
  hit3Script : List Event := []

/-- The scripts of an actor with their fields. -/
def Actor.slots (actor : Actor) : List Slot :=
  [("script", actor.script), ("startScript", actor.startScript),
    ("updateScript", actor.updateScript), ("hit1Script", actor.hit1Script),
    ("hit2Script", actor.hit2Script), ("hit3Script", actor.hit3Script)]

/-- An area of a scene that runs scripts when the player enters or leaves it. -/
structure Trigger where
  id : String := ""
  name : String := ""
  symbol : String := ""
  x : Int32 := 0
  y : Int32 := 0
  width : UInt32 := 0
  height : UInt32 := 0
  script : List Event := []
  leaveScript : List Event := []

namespace Trigger

/-- The scripts of a trigger with their fields. -/
def slots (trigger : Trigger) : List Slot :=
  [("script", trigger.script), ("leaveScript", trigger.leaveScript)]

/-- The script starts with something other than its end. -/
def runs (script : List Event) : Bool :=
  match script with
  | [] => false
  | event :: _ => event.command ≠ Script.Command.stop

/-- Neither script of the trigger starts with anything; such a trigger is left out. -/
def isInert (trigger : Trigger) : Bool :=
  !runs trigger.script && !runs trigger.leaveScript

end Trigger

/-- A scene. -/
structure Scene where
  id : String := ""
  name : String := ""
  symbol : String := ""
  type : String := "TOPDOWN"
  backgroundId : String := ""
  tilesetId : String := ""
  paletteIds : List String := []
  spritePaletteIds : List String := []
  parallax : Bool := false
  spriteMode : Option SpriteMode := none
  /-- Nothing means that the scene does not fade in by itself. -/
  autoFadeSpeed : Option UInt8 := some 1
  playerSpriteSheetId : String := ""
  width : UInt32 := 20
  height : UInt32 := 18
  collisions : List UInt8 := []
  actors : List Actor := []
  triggers : List Trigger := []
  script : List Event := []
  playerHit1Script : List Event := []
  playerHit2Script : List Event := []
  playerHit3Script : List Event := []

namespace Scene

/-- The scripts of a scene itself with their fields. -/
def slots (scene : Scene) : List Slot :=
  [("script", scene.script), ("playerHit1Script", scene.playerHit1Script),
    ("playerHit2Script", scene.playerHit2Script), ("playerHit3Script", scene.playerHit3Script)]

/-- The name used in messages; a scene without a name is called by its number. -/
def displayName (scene : Scene) (index : Nat) : String :=
  if scene.name == "" then "Scene " ++ toString (index + 1) else scene.name

end Scene

end Cartridge.Project
