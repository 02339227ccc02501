import Cartridge.Script.Binding

/-!
# Walking over scripts

A walk visits every enabled event of a script, those in its branches, and those in the bodies of
the custom events it calls, down to a number of levels.  Bodies are visited after the branches of
the call, with their placeholders bound.  Each visit records how many calls lie around the event.

A disabled event is skipped together with its branches.
-/

namespace Cartridge.Script

open Cartridge.Project (CustomEvent Scene Actor Trigger)

/-- An event met on a walk, inside `depth` calls of custom events. -/
structure Visit where
  event : Event
  depth : Nat

mutual

/-- The visits of an event that is met at a depth; `inner` visits the body it may call. -/
def visitEvent (inner : Event → List Visit) (depth : Nat) : Event → List Visit
  | ⟨id, command, args, branches⟩ =>
    let event : Event := ⟨id, command, args, branches⟩
    if event.isDisabled then []
    else ⟨event, depth⟩ :: (visitBranches inner depth branches ++ inner event)

/-- The visits of events. -/
def visitEvents (inner : Event → List Visit) (depth : Nat) : List Event → List Visit
  | [] => []
  | e :: rest => visitEvent inner depth e ++ visitEvents inner depth rest

/-- The visits of the events in branches. -/
def visitBranches (inner : Event → List Visit) (depth : Nat) :
    List (String × List Event) → List Visit
  | [] => []
  | (_, body) :: rest => visitEvents inner depth body ++ visitBranches inner depth rest

end

/-- What a call runs, with its arguments put in; other events call nothing. -/
def bodyOf? (library : List CustomEvent) (event : Event) : Option (List Event) :=
  if event.command = Command.callCustom then calledBody? library event else none

/-- The visits of events at a depth; calls are followed down `levels` further levels. -/
def walkFrom (library : List CustomEvent) : (levels depth : Nat) → List Event → List Visit
  | 0, depth => visitEvents (fun _ => []) depth
  | levels + 1, depth =>
    visitEvents (fun event =>
      match bodyOf? library event with
      | some body => walkFrom library levels (depth + 1) body
      | none => []) depth

/-- Visits a script, following calls down to a number of levels. -/
def walk (library : List CustomEvent) (levels : Nat) (events : List Event) : List Visit :=
  walkFrom library levels 0 events

/-! ## Scripts of scenes -/

/-- Whose script an event stands in. -/
inductive Owner
  | scene (scene : Scene)
  | actor (scene : Scene) (actor : Actor)
  | trigger (scene : Scene) (trigger : Trigger)

namespace Owner

/-- The id of an owner. -/
def id : Owner → String
  | .scene s => s.id
  | .actor _ a => a.id
  | .trigger _ t => t.id

/-- The scripts of an owner. -/
def slots : Owner → List Project.Slot
  | .scene s => s.slots
  | .actor _ a => a.slots
  | .trigger _ t => t.slots

end Owner

/-- The owners of scripts in a scene: the scene itself, its actors, its triggers. -/
def owners (scene : Scene) : List Owner :=
  .scene scene :: (scene.actors.map (.actor scene) ++ scene.triggers.map (.trigger scene))

/-- The visits of a scene with those who own the scripts. -/
def walkScene (library : List CustomEvent) (levels : Nat) (scene : Scene) :
    List (Owner × Visit) :=
  (owners scene).flatMap fun owner =>
    owner.slots.flatMap fun slot => (walk library levels slot.2).map (owner, ·)

/-- The visits of scenes. -/
def walkScenes (library : List CustomEvent) (levels : Nat) (scenes : List Scene) :
    List (Owner × Visit) :=
  scenes.flatMap (walkScene library levels)

end Cartridge.Script
