/-!
# Target platforms

The hardware a project is built for, and how much of it one scene may use.
-/

namespace Cartridge

/-- The hardware a project is built for. -/
inductive Platform
  | gameBoy
  | pocket
  | advance
  deriving DecidableEq

namespace Platform

/-- How many objects of each kind one scene may hold. -/
structure Limits where
  actors : Nat
  triggers : Nat
  projectiles : Nat
  deriving DecidableEq

/-- What fits on a platform. -/
def limits : Platform → Limits
  | .gameBoy => ⟨20, 30, 5⟩
  | .pocket => ⟨20, 30, 5⟩
  | .advance => ⟨16, 32, 8⟩

/-- Builds for the platform use the ARM toolchain. -/
def isAdvance (p : Platform) : Bool :=
  p == .advance

/-- The name of a platform for the tools. -/
def envName : Platform → String
  | .gameBoy => "gb"
  | .pocket => "pocket"
  | .advance => "gba"

end Platform

/-- Bodies of custom events are followed at most this many levels deep. -/
def maxNesting : Nat := 5

end Cartridge
