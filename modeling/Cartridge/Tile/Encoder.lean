import Cartridge.Compile.Error
import Cartridge.Files.Tree
import Cartridge.Project.Asset
import Cartridge.Tile.Picture

/-!
# Tiles

The hardware draws tiles of eight by eight pixels with four shades.  A row of a tile is two
bytes: the low bits of its eight shades, then the high bits, the leftmost pixel in the highest
bit.

A background is stored as its distinct tiles, in order of first occurrence, and a map that gives
the tile of each place.  One bank of memory holds 256 tiles; the second bank is there on colour
hardware only, and an attribute of each place says which bank its tile is in.
-/

namespace Cartridge.Tile

open Cartridge.Project
open Cartridge.Files (FileTree FilePath)

/-- The sixteen bytes of a tile. -/
abbrev Pattern := List UInt8

/-- The number of tiles that a bank holds for a background. -/
def bankTiles : Nat := 256

/-- The number of tiles that a bank holds for a sprite sheet. -/
def spriteBankTiles : Nat := 128

/-- The number of bytes of a tile. -/
def tileSize : Nat := 16

/-- The shade of a brightness; the brightest is zero. -/
def shade (brightness : UInt8) : Nat :=
  if 192 ≤ brightness then 0 else if 128 ≤ brightness then 1 else if 64 ≤ brightness then 2 else 3

/-- The byte with the given bits, the first in the highest place. -/
def byteOfBits (bits : List Nat) : UInt8 :=
  UInt8.ofNat (bits.foldl (fun n bit => 2 * n + bit) 0)

/-- The two bytes of a row of shades. -/
def rowBytes (shades : List Nat) : List UInt8 :=
  [byteOfBits (shades.map (· % 2)), byteOfBits (shades.map (· / 2))]

/-- The shades of the eight by eight pixels at a place, row by row. -/
def shadesAt (picture : Picture) (column row : Nat) : List (List Nat) :=
  (List.range 8).map fun y =>
    (List.range 8).map fun x => shade (picture.pixel (column * 8 + x) (row * 8 + y))

/-- The tile at a place of a picture. -/
def tileAt (picture : Picture) (column row : Nat) : Pattern :=
  (shadesAt picture column row).flatMap rowBytes

/-- The number of tiles beside each other. -/
def columns (picture : Picture) : Nat := picture.width / 8

/-- The number of tiles below each other. -/
def rows (picture : Picture) : Nat := picture.height / 8

/-- The tiles of a picture, row by row. -/
def tiles (picture : Picture) : List Pattern :=
  (List.range (rows picture)).flatMap fun row =>
    (List.range (columns picture)).map fun column => tileAt picture column row

/-- The bytes of tiles. -/
def tileBytes (tiles : List Pattern) : List UInt8 :=
  tiles.flatten

/-! ## Backgrounds -/

/-- Adds a tile that is not there yet. -/
def addDistinct (distinct : Array Pattern) (tile : Pattern) : Array Pattern :=
  if distinct.contains tile then distinct else distinct.push tile

/-- The distinct tiles, in order of first occurrence. -/
def distinctTiles (tiles : List Pattern) : Array Pattern :=
  tiles.foldl addDistinct #[]

/-- An encoded background. -/
structure EncodedBackground where
  bank1 : List UInt8
  bank2 : List UInt8
  tilemap : List UInt8
  attributes : List UInt8
  width : UInt32
  height : UInt32
  autoPalettes : Option (List Palette)

/-- The attribute of a place by the number of its tile: the second bank has a bit of its own. -/
def attributeOf (index : Nat) : UInt8 :=
  if bankTiles ≤ index then 0x08 else 0x00

/-- Encodes a background whose first tiles are common to several. -/
def encodeBackground (colorMode : ColorMode) (common : List Pattern) (picture : Picture) :
    EncodedBackground :=
  let own := tiles picture
  let distinct := distinctTiles (common ++ own)
  let indices := own.map fun tile => distinct.idxOf tile
  let colored := colorMode ≠ .mono
  { bank1 := tileBytes (distinct.toList.take bankTiles)
    bank2 := if colored then tileBytes (distinct.toList.drop bankTiles) else []
    tilemap := indices.map fun index => UInt8.ofNat (index % bankTiles)
    attributes := if colored then indices.map attributeOf else []
    width := UInt32.ofNat (columns picture)
    height := UInt32.ofNat (rows picture)
    autoPalettes := none }

/-! ## Sprites -/

/-- An encoded sprite sheet. -/
structure EncodedSprite where
  bank1 : List UInt8
  bank2 : List UInt8
  tileCount : Nat

/-- Encodes a sprite sheet. -/
def encodeSprite (picture : Picture) : EncodedSprite :=
  let all := tiles picture
  { bank1 := tileBytes (all.take spriteBankTiles)
    bank2 := tileBytes (all.drop spriteBankTiles)
    tileCount := all.length }

/-! ## Encoders -/

/-- How assets become data: a background with the common tileset of its scenes, a sprite sheet,
an image that is used as plain tiles, and music or sounds. -/
structure Encoder where
  background : ColorMode → Background → Option Asset → Except Compile.Error EncodedBackground
  sprite : SpriteSheet → Except Compile.Error EncodedSprite
  tiles : FilePath → Except Compile.Error (List UInt8)
  audio : FilePath → Except Compile.Error (List UInt8)

/-- Decodes the picture that a file holds, or says what is wrong with the file.  How pictures are
stored is up to the decoder. -/
abbrev PictureDecoder := FileTree → FilePath → Except Compile.Cause Picture

/-- The picture in a file; an error names the file. -/
def PictureDecoder.load (decode : PictureDecoder) (tree : FileTree) (path : FilePath) :
    Except Compile.Error Picture :=
  (decode tree path).mapError (.encoding path.text)

/-- The encoder that reads the files of a project. -/
def fileEncoder (decode : PictureDecoder) (tree : FileTree) (root : FilePath) : Encoder where
  background colorMode background common := do
    let picture ← decode.load tree (background.path "backgrounds" root)
    match common with
    | none => return encodeBackground colorMode [] picture
    | some tileset =>
      let shared ← decode.load tree (tileset.path "tilesets" root)
      return encodeBackground colorMode (tiles shared) picture
  sprite sheet := do
    return encodeSprite (← decode.load tree (sheet.path "sprites" root))
  tiles path := do
    return tileBytes (tiles (← decode.load tree path))
  audio path :=
    match tree.read path with
    | .ok data => .ok data.data.toList
    | .error fault => .error (.ofFault "read" path fault)

end Cartridge.Tile
