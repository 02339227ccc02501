/-!
# Pictures

A picture is a rectangle of grey pixels.  Coloured pixels count by their brightness.
-/

namespace Cartridge.Tile

/-- A grey picture, row by row. -/
structure Picture where
  width : Nat
  height : Nat
  pixels : Array UInt8

namespace Picture

/-- The brightness of a pixel; outside the picture it is zero. -/
def pixel (p : Picture) (x y : Nat) : UInt8 :=
  p.pixels.getD (y * p.width + x) 0

/-- The picture with the given brightness at each pixel. -/
def ofFunction (width height : Nat) (brightness : Nat → Nat → UInt8) : Picture where
  width := width
  height := height
  pixels := Array.ofFn fun i : Fin (width * height) => brightness (i.val % width) (i.val / width)

/-- The brightness of a coloured pixel. -/
def luma (red green blue : UInt8) : UInt8 :=
  UInt8.ofNat ((2126 * red.toNat + 7152 * green.toNat + 722 * blue.toNat) / 10000)

/-- The picture of coloured pixels, each given by its colours and `extra` further bytes. -/
def ofColors (width height extra : Nat) (bytes : Array UInt8) : Picture :=
  ofFunction width height fun x y =>
    let start := (y * width + x) * (3 + extra)
    luma (bytes.getD start 0) (bytes.getD (start + 1) 0) (bytes.getD (start + 2) 0)

/-- The picture made of eight by eight blocks, each of one brightness; pixels beside the last whole
block of a row belong to that block. -/
def ofShades (width height : Nat) (shades : Array UInt8) : Picture :=
  let across := max (width / 8) 1
  ofFunction width height fun x y => shades.getD (y / 8 * across + min (x / 8) (across - 1)) 0

end Picture

end Cartridge.Tile
