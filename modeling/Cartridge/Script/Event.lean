import Cartridge.Json.Value

/-!
# Script events

A script is a list of events.  An event has a command, arguments, and named branches that hold
scripts again.  The compiler knows a few commands by name; all others are handed to the engine
with their arguments.

A disabled event is kept in the project but has no effect, and neither have its branches.
-/

namespace Cartridge.Script

open Cartridge.Json

/-- One event of a script. -/
structure Event where
  id : String := ""
  command : String := ""
  /-- The arguments, in increasing order of their names. -/
  args : Fields := []
  /-- The branches, in increasing order of their names. -/
  branches : List (String × List Event) := []

/-! ## Commands with a meaning of their own -/

namespace Command

/-- Ends a script. -/
def stop : String := "EVENT_END"

/-- Calls a custom event. -/
def callCustom : String := "EVENT_CALL_CUSTOM_EVENT"

/-- Makes the screen visible. -/
def fadeIn : String := "EVENT_FADE_IN"

/-- Starts a piece of music. -/
def playMusic : String := "EVENT_MUSIC_PLAY"

/-- Launches a projectile. -/
def launchProjectile : String := "EVENT_LAUNCH_PROJECTILE"

/-- Gives an actor another sprite sheet. -/
def setActorSprite : String := "EVENT_ACTOR_SET_SPRITE"

/-- Gives the player another sprite sheet. -/
def setPlayerSprite : String := "EVENT_PLAYER_SET_SPRITE"

/-- Runs a branch only for one value of a parameter. -/
def guardParameter : String := "INTERNAL_IF_PARAM"

/-- Names the entity a script belongs to. -/
def setContext : String := "INTERNAL_SET_CONTEXT"

/-- Sets the size of sprites. -/
def setSpriteMode : String := "INTERNAL_SET_SPRITE_MODE"

end Command

namespace Event

/-- The author has turned the event off. -/
def isDisabled (event : Event) : Bool :=
  match Fields.get? event.args "__comment" with
  | some (.bool true) => true
  | _ => false

/-- The text of an argument, unless it is empty. -/
def text? (event : Event) (name : String) : Option String :=
  ((Fields.get? event.args name).bind Value.string?).filter (· ≠ "")

/-- The event does nothing. -/
def isIdle (event : Event) : Bool :=
  event.command == Command.stop || event.isDisabled

end Event

/-- All events do nothing. -/
def isIdle (events : List Event) : Bool :=
  events.all Event.isIdle

/-! ## As JSON -/

mutual

/-- The JSON form of an event; branches are written only when there are some. -/
def Event.json : Event → Value
  | ⟨id, command, args, branches⟩ =>
    .object ([("id", .string id), ("command", .string command), ("args", .object args)] ++
      match branches with
      | [] => []
      | _ :: _ => [("children", .object (branchesJson branches))])

/-- The events of a script as they are written. -/
def eventsJson : List Event → List Value
  | [] => []
  | e :: rest => e.json :: eventsJson rest

/-- The branches of an event as they are written. -/
def branchesJson : List (String × List Event) → List (String × Value)
  | [] => []
  | (name, body) :: rest => (name, .array (eventsJson body)) :: branchesJson rest

end

end Cartridge.Script
