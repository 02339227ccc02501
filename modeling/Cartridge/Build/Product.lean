import Cartridge.Platform

/-!
# Products

What a build makes: a cartridge image for one of the platforms, or a bundle for browsers.
-/

namespace Cartridge.Build

/-- What a build makes. -/
inductive Product
  | rom
  | web
  | pocket
  | advance
  deriving DecidableEq

namespace Product

/-- The platform that a product is compiled for. -/
def platform : Product → Platform
  | .rom => .gameBoy
  | .web => .gameBoy
  | .pocket => .pocket
  | .advance => .advance

/-- The ending of the image's file name. -/
def extension (product : Product) (colorOnly : Bool) : String :=
  match product with
  | .advance => "gba"
  | .pocket => "pocket"
  | _ => if colorOnly then "gbc" else "gb"

end Product

end Cartridge.Build
