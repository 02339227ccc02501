import Cartridge.Symbol.Allocator
import Cartridge.Tile.Encoder
import Cartridge.Usage

/-!
# Encoded files

Assets that are encoded as plain data: tilesets, fonts, avatars, emotes, sounds and music.  Each
used asset gets a symbol and the data of its file.

Several references to music may lead to one piece.  A piece is known by its preferred symbol and
its file, and is encoded once.
-/

namespace Cartridge.Tables

open Cartridge.Project
open Cartridge.Symbol (Allocator)
open Cartridge.Files (FilePath)

/-- Data with the symbol it is generated under. -/
structure Blob where
  symbol : String
  data : List UInt8

/-- The data of an asset. -/
structure AssetData where
  id : String
  name : String
  symbol : String
  data : List UInt8

/-- Gives each asset a symbol: the preferred one, else one made of a word and the name. -/
def nameAssets (word : String) (assets : List Asset) (a : Allocator) :
    List (Asset × String) × Allocator :=
  let (names, a) :=
    a.allocateAll (assets.map fun asset => (asset.symbol, word ++ "_" ++ asset.name))
  (assets.zip names, a)

/-- Encodes the files of assets that have symbols. -/
def encodeAssets (folder : String) (root : FilePath)
    (encode : FilePath → Except Compile.Error (List UInt8)) (named : List (Asset × String)) :
    Except Compile.Error (List AssetData) :=
  named.mapM fun entry => do
    let data ← encode (entry.1.path folder root)
    return ⟨entry.1.id, entry.1.name, entry.2, data⟩

/-! ## Music -/

/-- The items whose key is not among the seen ones, the first of each key. -/
def distinctFrom [BEq κ] (key : α → κ) (seen : List κ) : List α → List α
  | [] => []
  | a :: rest =>
    if seen.contains (key a) then distinctFrom key seen rest
    else a :: distinctFrom key (key a :: seen) rest

/-- The items without those whose key has come before. -/
def distinctBy [BEq κ] (key : α → κ) (items : List α) : List α :=
  distinctFrom key [] items

/-- What makes two references lead to the same piece. -/
def musicSource (track : Track) : String × String :=
  (track.symbol, track.filename)

/-- The pieces to encode with their symbols, and the symbol of each referenced id. -/
structure MusicPlan where
  pieces : List (Asset × String)
  symbols : List (String × String)

/-- Gives each distinct piece a symbol. -/
def planMusic (tracks : List Track) (a : Allocator) : MusicPlan × Allocator :=
  let distinct := distinctBy musicSource tracks
  let (pieces, a) := nameAssets "song" (distinct.map (·.toAsset)) a
  let sources := (distinct.map musicSource).zip (pieces.map (·.2))
  let symbols := tracks.filterMap fun track =>
    (sources.lookup (musicSource track)).map fun symbol => (track.id, symbol)
  (⟨pieces, symbols⟩, a)

end Cartridge.Tables
