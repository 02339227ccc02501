import Cartridge.Platform
import Cartridge.Schema
import Cartridge.Script.Walk

/-!
# The automatic fade-in

A scene starts dark.  Unless its script fades in by itself, one fade-in event is put before the
first event that has to wait for the picture, or at the end when nothing waits.  Only the events
of the script itself count, with the bodies of the custom events they call, and not their
branches.
-/

namespace Cartridge.Script

open Cartridge.Project (CustomEvent)

/-- What settles where the fade goes. -/
inductive FadeMark
  | fades
  | waits
  deriving DecidableEq

/-- Where the automatic fade goes. -/
inductive FadePoint
  | manual
  | before (index : Nat)
  | append
  deriving DecidableEq

/-- The mark an event makes, with calls followed down to `levels` levels. -/
def fadeMark? (schema : Schema) (library : List CustomEvent) :
    (levels : Nat) → Event → Option FadeMark
  | 0 => fun event =>
    if event.command = Command.fadeIn then some .fades
    else if schema.waits event.command then some .waits else none
  | levels + 1 => fun event =>
    if event.command = Command.fadeIn then some .fades
    else if schema.waits event.command then some .waits
    else
      ((bodyOf? library event).getD []).findSome? fun inner =>
        if inner.isDisabled then none else fadeMark? schema library levels inner

/-- The place of the fade in a script whose first event has the given index. -/
def fadePointFrom (schema : Schema) (library : List CustomEvent) (index : Nat) :
    List Event → FadePoint
  | [] => .append
  | event :: rest =>
    if event.isDisabled then fadePointFrom schema library (index + 1) rest
    else
      match fadeMark? schema library maxNesting event with
      | some .fades => .manual
      | some .waits => .before index
      | none => fadePointFrom schema library (index + 1) rest

/-- Where a script makes the screen visible, or has to. -/
def fadePoint (schema : Schema) (library : List CustomEvent) (script : List Event) : FadePoint :=
  fadePointFrom schema library 0 script

/-- The event that is put in where a script does not make the screen visible. -/
def fadeEvent (speed : UInt8) : Event where
  id := "autofade"
  command := Command.fadeIn
  args := [("speed", .number (.natural speed.toNat))]

/-- A script with the automatic fade of a speed; without a speed it stays as it is. -/
def addFade (schema : Schema) (library : List CustomEvent) (speed : Option UInt8)
    (script : List Event) : List Event :=
  match speed with
  | none => script
  | some speed =>
    match fadePoint schema library script with
    | .manual => script
    | .before index => script.take index ++ fadeEvent speed :: script.drop index
    | .append => script ++ [fadeEvent speed]

end Cartridge.Script
