import Cartridge.Project.Settings

/-!
# Structured code

What a script does, before it is laid out as a listing: a sequence of instructions with guarded
parts and events with branches.  Jumps and labels appear only in the listing.
-/

namespace Cartridge.Script

open Cartridge.Project (SpriteMode)

/-- One step of a script. -/
inductive Code
  /-- A remark, without effect. -/
  | comment (text : String)
  /-- Switches the sprite size. -/
  | spriteMode (mode : SpriteMode)
  /-- Fades the screen in. -/
  | fadeIn (speed : Nat)
  /-- Runs a shared script. -/
  | call (symbol : String)
  /-- Runs the body when a parameter has a value. -/
  | guarded (parameter value : Nat) (body : List Code)
  /-- Hands a command with its arguments to the engine, which then runs one of the branches or
  none. -/
  | event (command : String) (args : List String) (branches : List (String × List Code))

end Cartridge.Script
