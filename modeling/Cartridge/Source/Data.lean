import Cartridge.Source.File
import Cartridge.Tables.Basic

/-!
# Sources of data tables

Each table is one source in its own bank and a header that declares it.
-/

namespace Cartridge.Source

open Cartridge.Project
open Cartridge.Tables

/-- The two hexadecimal digits of a byte. -/
def hexByte (n : Nat) : String :=
  "0x" ++ Text.hexPadded 2 n

/-- The lines of a source: its title, the headers of what it refers to, the symbols it defines,
and its body. -/
def bankedLines (title : String) (defines headers : List String) (body : List Line) : List Line :=
  [line "#pragma bank 255", blank, line ("// " ++ title), blank,
    line "#include \"gbs_types.h\"", line "#include \"bankdata.h\""] ++
    headers.map (fun header => [Piece.include header]) ++ [blank] ++
    defines.map (fun symbol => line ("BANKREF(" ++ symbol ++ ")")) ++ [blank] ++ body

/-- The header that declares a symbol. -/
def headerLines (symbol declaration : String) : List Line :=
  let mark := "DATA_" ++ Text.upper symbol ++ "_H"
  [line ("#ifndef " ++ mark), line ("#define " ++ mark), blank,
    line "#include \"gbs_types.h\"", line "#include \"bankdata.h\"", blank,
    line ("BANKREF_EXTERN(" ++ symbol ++ ")"), line ("extern " ++ declaration ++ ";"), blank,
    line "#endif"]

/-- A table: what is generated for one symbol. -/
structure Table where
  symbol : String
  /-- The declaration of the symbol. -/
  declaration : String
  title : String
  /-- Further symbols that the source defines. -/
  helpers : List String := []
  headers : List String := []
  body : List Line
  /-- The products among the numbers of the body. -/
  products : List WordProduct := []

/-- The source and the header of a table, in a folder whose name ends with a slash or is
empty. -/
def Table.filesIn (folder : String) (table : Table) : List File :=
  let defines := table.symbol :: table.helpers
  [{ name := folder ++ table.symbol ++ ".c"
     defines := defines
     lines := bankedLines table.title defines table.headers table.body
     products := table.products },
    { name := folder ++ table.symbol ++ ".h"
      lines := headerLines table.symbol table.declaration }]

/-- The files of a table: a source and a header. -/
def Table.files (table : Table) : List File :=
  table.filesIn ""

/-! ## Plain data -/

/-- Cuts a list into pieces of `n + 1` items; `room` bounds the number of pieces. -/
def chunksOf (n : Nat) : (room : Nat) → List α → List (List α)
  | 0, _ => []
  | room + 1, items =>
    if items.isEmpty then []
    else items.take (n + 1) :: chunksOf n room (items.drop (n + 1))

/-- Bytes as rows of a table, sixteen in a row. -/
def byteRows (data : List UInt8) : List String :=
  (chunksOf 15 data.length data).map fun row =>
    "    " ++ Text.joinWith ", " (row.map fun b => hexByte b.toNat) ++ ","

/-- The definition of an array of bytes. -/
def byteArrayLines (symbol : String) (data : List UInt8) : List Line :=
  line ("const unsigned char " ++ symbol ++ "[] = \x7b") :: (byteRows data).map line ++
    [line "\x7d;"]

/-- A table of bytes. -/
def bytesTable (symbol title : String) (data : List UInt8) : Table where
  symbol := symbol
  declaration := "const unsigned char " ++ symbol ++ "[]"
  title := title
  body := byteArrayLines symbol data

/-- A table of tiles. -/
def tilesetTable (symbol title : String) (data : List UInt8) : Table where
  symbol := symbol
  declaration := "const tileset_t " ++ symbol
  title := title
  body :=
    [line ("const tileset_t " ++ symbol ++ " = \x7b"),
      line ("    .n_tiles = " ++ Script.decimal (data.length / Tile.tileSize) ++ ","),
      line "    .tiles = \x7b"] ++
      (byteRows data).map (fun row => line ("    " ++ row)) ++
      [line "    \x7d", line "\x7d;"]

/-- A font: the pictures of its letters and a description of them. -/
def fontTable (symbol title : String) (data : List UInt8) : Table :=
  let bitmaps := symbol ++ "_bitmaps"
  { symbol := symbol
    declaration := "const font_t " ++ symbol
    title := title
    helpers := [bitmaps]
    body := byteArrayLines bitmaps data ++
      [blank, line ("const font_t " ++ symbol ++ " = \x7b"), line "    .attr = 0,",
        [.text "    .bitmaps = ", .pointer (some bitmaps)], line "\x7d;"] }

/-! ## Palettes -/

/-- The number of a shade of grey. -/
def grayNumber : Gray → Nat
  | .white => 0
  | .light => 1
  | .dark => 2
  | .black => 3

/-- The register value of a row of shades, two bits a shade, the first in the lowest bits. -/
def rowValue (row : List Gray) : Nat :=
  row.foldr (fun gray value => value * 4 + grayNumber gray) 0

/-- The value of two characters that write a number in hexadecimal; a plus sign may stand
before a single digit. -/
def hexPair? (a b : UInt8) : Option Nat :=
  match Text.hexDigit? (Char.ofNat a.toNat), Text.hexDigit? (Char.ofNat b.toNat) with
  | some high, some low => some (high * 16 + low)
  | none, some low => if a.toNat = '+'.toNat then some low else none
  | _, _ => none

/-- A channel of a colour, from the byte of its text at a place; what is no number counts as
zero. -/
def colorChannel (text : List UInt8) (place : Nat) : Nat :=
  match text[place]?, text[place + 1]? with
  | some a, some b => (hexPair? a b).getD 0
  | _, _ => 0

/-- A colour with five bits a channel, red in the lowest. -/
def packedColor (color : String) : Nat :=
  let text := Text.utf8 color
  colorChannel text 0 / 8 + colorChannel text 2 / 8 * 32 + colorChannel text 4 / 8 * 1024

/-- The table of a palette set. -/
def paletteTable (symbol : String) (set : PaletteSet) : Table :=
  let value (row : Nat) : Nat := ((set.layer.rows[row]?).map rowValue).getD 0
  { symbol := symbol
    declaration := "const palette_t " ++ symbol
    title := "Palette"
    body :=
      [line ("const palette_t " ++ symbol ++ " = \x7b"),
        line ("    .mask = " ++ hexByte (if set.colors.isSome then 0xFF else 0) ++ ","),
        line ("    .palette = \x7b " ++ hexByte (value 0) ++ ", " ++ hexByte (value 1) ++
          " \x7d,"),
        line "    .cgb_palette = \x7b"] ++
      (set.colors.getD []).map (fun colors =>
        line ("        \x7b " ++ Text.joinWith ", " (colors.toList.map fun color =>
          "0x" ++ Text.hexPadded 4 (packedColor color)) ++ " \x7d,")) ++
      [line "    \x7d", line "\x7d;"] }

/-! ## Backgrounds and sprites -/

/-- The table of a background. -/
def backgroundTable (entry : BackgroundEntry) : Table where
  symbol := entry.symbol
  declaration := "const background_t " ++ entry.symbol
  title := "Background: " ++ entry.name
  headers := entry.tileset.toList ++ entry.colorTileset.toList ++ entry.tilemap.toList ++
    entry.attributes.toList
  body :=
    [line ("const background_t " ++ entry.symbol ++ " = \x7b"),
      line ("    .width = " ++ Script.decimal entry.width.toNat ++ ","),
      line ("    .height = " ++ Script.decimal entry.height.toNat ++ ","),
      [.text "    .tileset = ", .pointer entry.tileset, .text ","],
      [.text "    .cgb_tileset = ", .pointer entry.colorTileset, .text ","],
      [.text "    .tilemap = ", .pointer entry.tilemap, .text ","],
      [.text "    .cgb_tilemap_attr = ", .pointer entry.attributes],
      line "\x7d;"]

/-- A sprite sheet with a number of tiles and the tilesets of its two banks. -/
def sheetTable (symbol title : String) (count : Nat) (tileset bank2 : Option String) : Table where
  symbol := symbol
  declaration := "const spritesheet_t " ++ symbol
  title := title
  headers := tileset.toList ++ bank2.toList
  body :=
    [line ("const spritesheet_t " ++ symbol ++ " = \x7b"),
      line ("    .n_metasprites = " ++ Script.decimal count ++ ","),
      [.text "    .tileset = ", .pointer tileset, .text ","],
      [.text "    .cgb_tileset = ", .pointer bank2],
      line "\x7d;"]

/-- The table of a sprite sheet. -/
def spriteTable (entry : SpriteEntry) : Table :=
  sheetTable entry.symbol ("Sprite: " ++ entry.name) (min entry.tileCount 255)
    (some entry.tileset) entry.bank2Tileset

/-- The sprite sheet of actors that have none. -/
def emptySheetTable : Table :=
  sheetTable "spritesheet_none" "Empty sprite" 0 none none

/-! ## Avatars -/

/-- The number of avatars that share a font. -/
def avatarsPerFont : Nat := 16

/-- Avatars are fonts of sixteen pictures. -/
def avatarTables (avatars : List AssetData) : List Table :=
  ((chunksOf (avatarsPerFont - 1) avatars.length avatars).zipIdx).map fun (group, n) =>
    fontTable ("avatar_font_" ++ Script.decimal n) "Avatar font" (group.flatMap (·.data))

end Cartridge.Source
