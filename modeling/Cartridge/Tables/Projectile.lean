import Cartridge.Digest.Key
import Cartridge.Script.Event

/-!
# Projectiles

A projectile is described by ten arguments of the event that launches it.  Launches that agree on
all ten share one projectile.
-/

namespace Cartridge.Tables

open Cartridge.Digest (Key)
open Cartridge.Json
open Cartridge.Script (Event)

/-- The arguments that tell projectiles apart. -/
def projectileFields : List String :=
  ["spriteSheetId", "spriteStateId", "speed", "animSpeed", "loopAnim", "lifeTime",
    "initialOffset", "destroyOnHit", "collisionGroup", "collisionMask"]

/-- A projectile of a scene. -/
structure Projectile where
  key : Key
  spriteSheetId : String
  args : Fields

/-- What the key of a projectile is made of; a missing argument counts as null. -/
def projectileCalls (args : Fields) : List Digest.Call :=
  projectileFields.flatMap fun name =>
    .text name :: Digest.calls ((Fields.get? args name).getD .null)

/-- The key of a projectile. -/
def projectileKey (args : Fields) : Key :=
  .ofCalls "projectile" (projectileCalls args)

/-- The projectile that an event launches, if it names a sprite sheet. -/
def Projectile.ofEvent? (event : Event) : Option Projectile :=
  (event.text? "spriteSheetId").map fun sheet => ⟨projectileKey event.args, sheet, event.args⟩

end Cartridge.Tables
