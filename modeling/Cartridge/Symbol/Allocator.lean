import Std.Data.TreeSet
import Cartridge.Symbol.Identifier

/-!
# Unique names for one compilation

Every generated object gets a name of its own.  A name is handed out together with the names of
the data that may be generated beside it, so a name is free only when all of those are free too.
Scripts shared by several callers have no such companions and are numbered.
-/

namespace Cartridge.Symbol

/-- Endings of the names of data generated beside an object. -/
def companionSuffixes : List String :=
  ["tileset", "cgb_tileset", "bank2_tileset", "tilemap", "tilemap_attr", "bitmaps", "actors",
    "triggers", "sprites", "projectiles", "collisions"]

/-- The names of the data generated beside an object. -/
def companions (name : String) : List String :=
  companionSuffixes.map fun suffix => name ++ "_" ++ suffix

/-- A name with its companions. -/
def family (name : String) : List String :=
  name :: companions name

/-- The names handed out so far. -/
structure Allocator where
  used : Std.TreeSet String := {}
  nextShared : Nat := 0

namespace Allocator

/-- No name is used. -/
def empty : Allocator := {}

/-- A name is used. -/
def isUsed (a : Allocator) (name : String) : Bool :=
  a.used.contains name

/-- Neither a name nor any of its companions is used. -/
def isFree (a : Allocator) (name : String) : Bool :=
  (family name).all fun n => !a.isUsed n

/-- Uses a name with its companions. -/
def reserve (a : Allocator) (name : String) : Allocator :=
  { a with used := (family name).foldl (·.insert ·) a.used }

/-- The name asked for: the identifier of the preferred text, else of the fallback, else a fixed
word. -/
def baseName (preferred fallback : String) : String :=
  let first := identifier preferred
  let second := identifier fallback
  if first ≠ "" then first else if second ≠ "" then second else "symbol"

/-- The `n`-th alternative of a name. -/
def numbered (base : String) (n : Nat) : String :=
  base ++ "_" ++ String.ofList (Nat.toDigits 10 n)

/-- The first free alternative from number `n` on.  Each taken name blocks at most one
alternative, so one more try than there are taken names always finds one. -/
def firstFree (a : Allocator) (base : String) : Nat → Nat → String
  | 0, n => numbered base n
  | tries + 1, n =>
    if a.isFree (numbered base n) then numbered base n else firstFree a base tries (n + 1)

/-- The name that `allocate` hands out. -/
def choose (a : Allocator) (preferred fallback : String) : String :=
  let base := baseName preferred fallback
  if a.isFree base then base else a.firstFree base (a.used.size + 1) 1

/-- Hands out a name for an object and reserves its companions. -/
def allocate (a : Allocator) (preferred fallback : String) : String × Allocator :=
  let name := a.choose preferred fallback
  (name, a.reserve name)

/-- The name of a shared script by its number. -/
def sharedName (n : Nat) : String :=
  "script_custom_" ++ String.ofList (Nat.toDigits 10 n)

/-- The first number from a start on whose name is not used. -/
def firstShared (a : Allocator) : Nat → Nat → Nat
  | 0, n => n
  | tries + 1, n => if a.isUsed (sharedName n) then firstShared a tries (n + 1) else n

/-- A new name for a shared script. -/
def allocateShared (a : Allocator) : String × Allocator :=
  let n := a.firstShared (a.used.size + 1) a.nextShared
  (sharedName n, { used := a.used.insert (sharedName n), nextShared := n + 1 })

/-- Hands out names for a list of requests, in order. -/
def allocateAll (a : Allocator) : List (String × String) → List String × Allocator
  | [] => ([], a)
  | (preferred, fallback) :: rest =>
    let (name, a) := a.allocate preferred fallback
    let (names, a) := a.allocateAll rest
    (name :: names, a)

end Allocator

end Cartridge.Symbol
