import Mathlib.Algebra.Group.Nat.Defs
import Mathlib.Data.List.Nodup
import Cartridge.Proofs.List.FirstOccurrence
import Cartridge.Tile.Stored

/-!
# What a stored background shows

A background is drawn from what is stored of it: for each place the map gives a tile number, the
attribute of the place says in which bank to look, and the sixteen bytes found there are read as
two bits for each pixel (`shownTile`, `decodeTile`).

Reading a tile back gives the shades it was made of (`decodeTile_tileAt`), so tiles with the same
shades are one tile.  A number has eight bits only and the banks hold 256 tiles each, so a place
shows the tile whose index is `shownIndex`: the remainder by 256, in the second bank where there
is one.  The tiles are distinct, so this is the right one exactly when the index is below the
number of tiles that fit (`shownIndex_eq_iff`).

The main result, `background_faithful_iff`, is about the encoder that reads the files of a project,
for every picture, every common tileset and every colour mode.
-/

namespace Cartridge.Tile

open Cartridge.Project
open Cartridge.Files (FileTree FilePath)

/-! ## Reading tiles back -/

/-- A bit of a byte, counted from the highest. -/
def bitAt (byte : UInt8) (x : Nat) : Nat :=
  byte.toNat / 2 ^ (7 - x) % 2

/-- The shades of a row of eight pixels: the low bits are in the first byte, the high bits in the
second. -/
def decodeRow (low high : UInt8) : List Nat :=
  (List.range 8).map fun x => bitAt low x + 2 * bitAt high x

/-- The shades of the pixels of a tile, row by row. -/
def decodeTile : List UInt8 → List (List Nat)
  | low :: high :: rest => decodeRow low high :: decodeTile rest
  | _ => []

/-- The number with the given binary digits. -/
def binaryValue (bits : List Nat) : Nat :=
  bits.foldl (fun n bit => 2 * n + bit) 0

lemma binaryValue_concat (bits : List Nat) (bit : Nat) :
    binaryValue (bits ++ [bit]) = 2 * binaryValue bits + bit := by
  rw [binaryValue, List.foldl_append]
  rfl

variable {bits : List Nat} {tile : Pattern}

lemma binaryValue_lt (h : ∀ bit ∈ bits, bit < 2) :
    binaryValue bits < 2 ^ bits.length := by
  induction bits using List.reverseRecOn with
  | nil => exact Nat.one_pos
  | append_singleton bits bit ih =>
    rw [List.forall_mem_append, List.forall_mem_singleton] at h
    have hbits := ih h.1
    have hbit := h.2
    rw [binaryValue_concat, List.length_append, List.length_singleton, Nat.pow_succ]
    omega

/-- The digits of a number are found again by dividing. -/
lemma digits_binaryValue (h : ∀ bit ∈ bits, bit < 2) :
    (List.range bits.length).map (fun x => binaryValue bits / 2 ^ (bits.length - 1 - x) % 2) =
      bits := by
  induction bits using List.reverseRecOn with
  | nil => rfl
  | append_singleton bits bit ih =>
    rw [List.forall_mem_append, List.forall_mem_singleton] at h
    have hbit := h.2
    rw [List.length_append, List.length_singleton, List.range_succ, List.map_append,
      binaryValue_concat]
    congr 1
    · -- all digits but the last are those of half the number
      refine Eq.trans (List.map_congr_left fun x hx => ?_) (ih h.1)
      have hlt := List.mem_range.mp hx
      have hexponent : bits.length + 1 - 1 - x = bits.length - 1 - x + 1 := by omega
      have hhalf : (2 * binaryValue bits + bit) / 2 = binaryValue bits := by omega
      rw [hexponent, Nat.pow_succ', ← Nat.div_div_eq_div_mul, hhalf]
    · have hexponent : bits.length + 1 - 1 - bits.length = 0 := by omega
      rw [List.map_singleton, hexponent, Nat.pow_zero, Nat.div_one]
      congr 1
      omega

lemma bitAt_byteOfBits (hlength : bits.length = 8) (h : ∀ bit ∈ bits, bit < 2) :
    (List.range 8).map (bitAt (byteOfBits bits)) = bits := by
  have hlt := binaryValue_lt h
  have hdigits := digits_binaryValue h
  rw [hlength] at hlt hdigits
  have hvalue : (byteOfBits bits).toNat = binaryValue bits := UInt8.toNat_ofNat_of_lt' hlt
  calc (List.range 8).map (bitAt (byteOfBits bits))
      = (List.range 8).map (fun x => binaryValue bits / 2 ^ (8 - 1 - x) % 2) := by
        simp only [← hvalue]; rfl
    _ = bits := hdigits

/-- The shades of a row are found again in its two bytes. -/
lemma decodeRow_rowBytes {shades : List Nat} (hlength : shades.length = 8)
    (h : ∀ s ∈ shades, s < 4) :
    decodeRow (byteOfBits (shades.map (· % 2))) (byteOfBits (shades.map (· / 2))) = shades := by
  have hlow := bitAt_byteOfBits (by rw [List.length_map, hlength])
    (List.forall_mem_map.mpr fun s _ => Nat.mod_lt s Nat.two_pos)
  have hhigh := bitAt_byteOfBits (by rw [List.length_map, hlength])
    (List.forall_mem_map.mpr fun s hs => (Nat.div_lt_iff_lt_mul Nat.two_pos).mpr (h s hs))
  calc decodeRow (byteOfBits (shades.map (· % 2))) (byteOfBits (shades.map (· / 2)))
      = List.zipWith (fun low high => low + 2 * high)
          ((List.range 8).map (bitAt (byteOfBits (shades.map (· % 2)))))
          ((List.range 8).map (bitAt (byteOfBits (shades.map (· / 2))))) := by
        rw [List.zipWith_map, List.zipWith_self]
        rfl
    _ = shades.map (fun s => s % 2 + 2 * (s / 2)) := by
        rw [hlow, hhigh, List.zipWith_map, List.zipWith_self]
    _ = shades := by simp only [Nat.mod_add_div, List.map_id']

lemma decodeTile_flatMap {rows : List (List Nat)}
    (h : ∀ shades ∈ rows, shades.length = 8 ∧ ∀ s ∈ shades, s < 4) :
    decodeTile (rows.flatMap rowBytes) = rows := by
  induction rows with
  | nil => rfl
  | cons shades rows ih =>
    rw [List.forall_mem_cons] at h
    rw [List.flatMap_cons, rowBytes, List.cons_append, List.cons_append, List.nil_append,
      decodeTile, decodeRow_rowBytes h.1.1 h.1.2, ih h.2]

lemma shade_lt (brightness : UInt8) : shade brightness < 4 := by
  unfold shade
  split_ifs <;> decide

/-- Reading a tile back gives the shades it was made of. -/
lemma decodeTile_tileAt (picture : Picture) (column row : Nat) :
    decodeTile (tileAt picture column row) = shadesAt picture column row := by
  refine decodeTile_flatMap ?_
  intro shades hshades
  obtain ⟨y, -, rfl⟩ := List.mem_map.mp hshades
  refine ⟨by rw [List.length_map, List.length_range], ?_⟩
  intro s hs
  obtain ⟨x, -, rfl⟩ := List.mem_map.mp hs
  exact shade_lt _

/-! ## Tiles of pictures -/

/-- The tile stands in some picture. -/
def OfPicture (tile : Pattern) : Prop :=
  ∃ picture column row, tile = tileAt picture column row

lemma OfPicture.length_eq (h : OfPicture tile) : tile.length = tileSize := by
  obtain ⟨picture, column, row, rfl⟩ := h
  rfl

/-- Tiles with the same shades are one tile. -/
lemma OfPicture.decodeTile_eq_iff (h : OfPicture tile) (picture : Picture) (column row : Nat) :
    decodeTile tile = shadesAt picture column row ↔ tile = tileAt picture column row := by
  refine ⟨fun hshades => ?_, fun htile => htile ▸ decodeTile_tileAt picture column row⟩
  obtain ⟨source, column', row', rfl⟩ := h
  rw [decodeTile_tileAt] at hshades
  rw [tileAt, hshades, tileAt]

lemma ofPicture_of_mem_tiles {picture : Picture} (h : tile ∈ tiles picture) :
    OfPicture tile := by
  obtain ⟨row, -, htile⟩ := List.mem_flatMap.mp h
  obtain ⟨column, -, rfl⟩ := List.mem_map.mp htile
  exact ⟨picture, column, row, rfl⟩

/-- Counting the places of a rectangle row by row. -/
lemma flatMap_range_eq_map {α : Type} (f : Nat → Nat → α) (across down : Nat) :
    ((List.range down).flatMap fun row => (List.range across).map fun column => f column row) =
      (List.range (across * down)).map fun k => f (k % across) (k / across) := by
  induction down with
  | zero => rfl
  | succ down ih =>
    rw [List.range_succ, List.flatMap_append, ih, Nat.mul_succ, List.range_add, List.map_append,
      List.map_map, List.flatMap_singleton]
    congr 1
    refine List.map_congr_left fun column hcolumn => ?_
    have hlt := List.mem_range.mp hcolumn
    rw [Function.comp_apply, Nat.mul_add_mod, Nat.mod_eq_of_lt hlt,
      Nat.mul_add_div (Nat.zero_lt_of_lt hlt), Nat.div_eq_of_lt hlt, Nat.add_zero]

lemma getD_map_range {α : Type} (f : Nat → α) {n k : Nat} (hk : k < n) (d : α) :
    ((List.range n).map f).getD k d = f k := by
  rw [List.getD_eq_getElem?_getD, List.getElem?_map, List.getElem?_range hk]
  rfl

lemma tiles_eq_map (picture : Picture) :
    tiles picture = (List.range (columns picture * rows picture)).map fun k =>
      tileAt picture (k % columns picture) (k / columns picture) :=
  flatMap_range_eq_map (tileAt picture) (columns picture) (rows picture)

lemma distinctTiles_eq (patterns : List Pattern) :
    distinctTiles patterns = patterns.eraseDups.toArray := by
  induction patterns using List.reverseRecOn with
  | nil => rfl
  | append_singleton patterns tile ih =>
    have hstep : distinctTiles (patterns ++ [tile]) =
        addDistinct (distinctTiles patterns) tile := by
      rw [distinctTiles, List.foldl_append]
      rfl
    have hcontains : patterns.eraseDups.contains tile = patterns.contains tile := by
      rw [Bool.eq_iff_iff, List.contains_iff_mem, List.contains_iff_mem, List.mem_eraseDups]
    rw [hstep, addDistinct, ih, FirstOccurrence.eraseDups_concat, List.contains_toArray, hcontains]
    split_ifs
    · rfl
    · exact List.push_toArray _ _

/-- Where tiles stand one after another, each is found at a multiple of the size. -/
lemma take_drop_flatten {patterns : List Pattern} (h : ∀ tile ∈ patterns, tile.length = tileSize)
    {j : Nat} (hj : j < patterns.length) :
    (patterns.flatten.drop (tileSize * j)).take tileSize = patterns.getD j [] := by
  induction patterns generalizing j with
  | nil => exact absurd hj (Nat.not_lt_zero j)
  | cons tile rest ih =>
    rw [List.forall_mem_cons] at h
    rw [List.flatten_cons]
    cases j with
    | zero => rw [Nat.mul_zero, List.drop_zero, List.take_left' h.1]; rfl
    | succ j =>
      have hsize : tileSize * (j + 1) = tile.length + tileSize * j := by
        rw [h.1, Nat.mul_succ, Nat.add_comm]
      rw [hsize, List.drop_length_add_append, ih h.2 (Nat.lt_of_succ_lt_succ hj)]
      rfl

/-! ## What is shown -/

/-- The tile that is drawn at a place: the map gives its number, and bit 3 of the attribute, where
there are attributes, says that the number is one of the second bank. -/
def shownTile (encoded : EncodedBackground) (k : Nat) : Pattern :=
  let bank := if encoded.attributes.getD k 0 &&& 0x08 ≠ 0 then encoded.bank2 else encoded.bank1
  (bank.drop (tileSize * (encoded.tilemap.getD k 0).toNat)).take tileSize

/-- Of the distinct tiles, the one that is drawn where the tile with an index belongs. -/
def shownIndex (colorMode : ColorMode) (index : Nat) : Nat :=
  if colorMode ≠ .mono ∧ bankTiles ≤ index then bankTiles + index % bankTiles
  else index % bankTiles

lemma shownIndex_le (colorMode : ColorMode) (index : Nat) : shownIndex colorMode index ≤ index := by
  unfold shownIndex bankTiles
  split_ifs <;> omega

/-- The right tile is drawn exactly for the indices that the banks have room for. -/
lemma shownIndex_eq_iff (colorMode : ColorMode) (index : Nat) :
    shownIndex colorMode index = index ↔ index < if colorMode = .mono then 256 else 512 := by
  unfold shownIndex bankTiles
  by_cases hmono : colorMode = .mono
  · rw [if_neg (fun h => h.1 hmono), if_pos hmono]
    omega
  · rw [if_neg hmono]
    by_cases hbank : 256 ≤ index
    · rw [if_pos ⟨hmono, hbank⟩]
      omega
    · rw [if_neg (fun h => hbank h.2)]
      omega

/-- The distinct tiles of a background, those of the common tileset first. -/
def backgroundTiles (common : List Pattern) (picture : Picture) : List Pattern :=
  (common ++ tiles picture).eraseDups

/-- The index among the distinct tiles of the tile that belongs at a place; places are counted row
by row. -/
def tileIndex (common : List Pattern) (picture : Picture) (k : Nat) : Nat :=
  (backgroundTiles common picture).idxOf
    (tileAt picture (k % columns picture) (k / columns picture))

section Encoding

variable {common : List Pattern} {picture : Picture} {k : Nat}

lemma ofPicture_of_mem_backgroundTiles (hcommon : ∀ tile ∈ common, OfPicture tile) {tile : Pattern}
    (h : tile ∈ backgroundTiles common picture) : OfPicture tile := by
  rcases List.mem_append.mp (List.mem_eraseDups.mp h) with hmem | hmem
  · exact hcommon tile hmem
  · exact ofPicture_of_mem_tiles hmem

lemma tileIndex_lt (hk : k < columns picture * rows picture) :
    tileIndex common picture k < (backgroundTiles common picture).length := by
  refine List.idxOf_lt_length_iff.mpr (List.mem_eraseDups.mpr (List.mem_append_right common ?_))
  rw [tiles_eq_map]
  exact List.mem_map_of_mem (List.mem_range.mpr hk)

lemma map_idxOf_tiles (common : List Pattern) (picture : Picture) :
    (tiles picture).map (fun tile => (distinctTiles (common ++ tiles picture)).idxOf tile) =
      (List.range (columns picture * rows picture)).map (tileIndex common picture) := by
  calc (tiles picture).map (fun tile => (distinctTiles (common ++ tiles picture)).idxOf tile)
      = (tiles picture).map (backgroundTiles common picture).idxOf := by
        rw [distinctTiles_eq]
        exact List.map_congr_left fun tile _ => List.idxOf_toArray
    _ = (List.range (columns picture * rows picture)).map (tileIndex common picture) := by
        rw [tiles_eq_map, List.map_map]
        rfl

lemma tilemap_encodeBackground (colorMode : ColorMode) (common : List Pattern) (picture : Picture) :
    (encodeBackground colorMode common picture).tilemap =
      (List.range (columns picture * rows picture)).map fun k =>
        UInt8.ofNat (tileIndex common picture k % bankTiles) := by
  simp only [encodeBackground, map_idxOf_tiles, List.map_map]
  rfl

lemma attributes_encodeBackground (colorMode : ColorMode) (common : List Pattern)
    (picture : Picture) :
    (encodeBackground colorMode common picture).attributes =
      if colorMode = .mono then []
      else (List.range (columns picture * rows picture)).map fun k =>
        attributeOf (tileIndex common picture k) := by
  simp only [encodeBackground, map_idxOf_tiles, List.map_map, ne_eq, ite_not]
  rfl

lemma bank1_encodeBackground (colorMode : ColorMode) (common : List Pattern) (picture : Picture) :
    (encodeBackground colorMode common picture).bank1 =
      ((backgroundTiles common picture).take bankTiles).flatten := by
  simp only [encodeBackground, distinctTiles_eq]
  rfl

lemma bank2_encodeBackground (colorMode : ColorMode) (common : List Pattern) (picture : Picture) :
    (encodeBackground colorMode common picture).bank2 =
      if colorMode = .mono then []
      else ((backgroundTiles common picture).drop bankTiles).flatten := by
  simp only [encodeBackground, distinctTiles_eq, ne_eq, ite_not]
  rfl

/-- The bank that a place is drawn from. -/
lemma attribute_and_eight (colorMode : ColorMode) (hk : k < columns picture * rows picture) :
    (encodeBackground colorMode common picture).attributes.getD k 0 &&& 0x08 ≠ 0 ↔
      colorMode ≠ .mono ∧ bankTiles ≤ tileIndex common picture k := by
  rw [attributes_encodeBackground]
  by_cases hmono : colorMode = .mono
  · rw [if_pos hmono]
    exact iff_of_false (fun h => h (UInt8.zero_and)) (fun h => h.1 hmono)
  · rw [if_neg hmono, getD_map_range _ hk, attributeOf]
    split_ifs with hbank
    · exact iff_of_true (by decide) ⟨hmono, hbank⟩
    · exact iff_of_false (fun h => h (by decide)) (fun h => hbank h.2)

lemma tilemap_toNat (colorMode : ColorMode) (hk : k < columns picture * rows picture) :
    ((encodeBackground colorMode common picture).tilemap.getD k 0).toNat =
      tileIndex common picture k % bankTiles := by
  rw [tilemap_encodeBackground, getD_map_range _ hk]
  exact UInt8.toNat_ofNat_of_lt' (Nat.mod_lt _ (by decide))

lemma shownTile_encodeBackground (hcommon : ∀ tile ∈ common, OfPicture tile)
    (colorMode : ColorMode) (hk : k < columns picture * rows picture) :
    shownTile (encodeBackground colorMode common picture) k =
      (backgroundTiles common picture).getD
        (shownIndex colorMode (tileIndex common picture k)) [] := by
  have hsize : ∀ tile ∈ backgroundTiles common picture, tile.length = tileSize :=
    fun tile htile => (ofPicture_of_mem_backgroundTiles hcommon htile).length_eq
  have hindex : tileIndex common picture k < (backgroundTiles common picture).length :=
    tileIndex_lt hk
  have hnumber : tileIndex common picture k % bankTiles < bankTiles := Nat.mod_lt _ (by decide)
  rw [shownTile, tilemap_toNat colorMode hk, shownIndex]
  by_cases hsecond : colorMode ≠ .mono ∧ bankTiles ≤ tileIndex common picture k
  · have hroom : tileIndex common picture k % bankTiles + bankTiles ≤
        tileIndex common picture k := by
      have hle := hsecond.2
      unfold bankTiles at hle ⊢
      omega
    rw [if_pos ((attribute_and_eight colorMode hk).mpr hsecond), if_pos hsecond,
      bank2_encodeBackground, if_neg hsecond.1, take_drop_flatten]
    · rw [List.getD_eq_getElem?_getD, List.getElem?_drop, ← List.getD_eq_getElem?_getD]
    · exact fun tile htile => hsize tile (List.mem_of_mem_drop htile)
    · rw [List.length_drop]
      exact Nat.lt_sub_of_add_lt (Nat.lt_of_le_of_lt hroom hindex)
  · rw [if_neg (mt (attribute_and_eight colorMode hk).mp hsecond), if_neg hsecond,
      bank1_encodeBackground, take_drop_flatten]
    · rw [List.getD_eq_getElem?_getD, List.getElem?_take_of_lt hnumber,
        ← List.getD_eq_getElem?_getD]
    · exact fun tile htile => hsize tile (List.mem_of_mem_take htile)
    · rw [List.length_take]
      exact Nat.lt_min.mpr ⟨hnumber, Nat.lt_of_le_of_lt (Nat.mod_le _ _) hindex⟩

/-- A place shows the tile that belongs there exactly when the index of the tile has room. -/
lemma decodeTile_shownTile_iff (hcommon : ∀ tile ∈ common, OfPicture tile) (colorMode : ColorMode)
    (hk : k < columns picture * rows picture) :
    decodeTile (shownTile (encodeBackground colorMode common picture) k) =
        shadesAt picture (k % columns picture) (k / columns picture) ↔
      tileIndex common picture k < if colorMode = .mono then 256 else 512 := by
  have hindex : tileIndex common picture k < (backgroundTiles common picture).length :=
    tileIndex_lt hk
  have hshown := Nat.lt_of_le_of_lt (shownIndex_le colorMode (tileIndex common picture k)) hindex
  have hnodup : (backgroundTiles common picture).Nodup := FirstOccurrence.nodup_eraseDups _
  have hmember := List.getElem_mem hshown
  have hown : (backgroundTiles common picture)[tileIndex common picture k] =
      tileAt picture (k % columns picture) (k / columns picture) := List.getElem_idxOf hindex
  rw [shownTile_encodeBackground hcommon colorMode hk, List.getD_eq_getElem?_getD,
    List.getElem?_eq_getElem hshown, Option.getD_some,
    (ofPicture_of_mem_backgroundTiles hcommon hmember).decodeTile_eq_iff, ← hown,
    hnodup.getElem_inj_iff, shownIndex_eq_iff]

end Encoding

/-! ## Backgrounds in files -/

/-- The tiles that the common tileset of a background, if it has one, brings. -/
inductive CommonTiles (decode : PictureDecoder) (tree : FileTree) (root : FilePath) :
    Option Asset → List Pattern → Prop
  | none : CommonTiles decode tree root none []
  | some {tileset : Asset} {picture : Picture}
      (loaded : decode.load tree (tileset.path "tilesets" root) = .ok picture) :
      CommonTiles decode tree root (some tileset) (tiles picture)

variable {decode : PictureDecoder} {tree : FileTree} {root : FilePath} {colorMode : ColorMode}
  {background : Background} {common : Option Asset} {encoded : EncodedBackground}

lemma CommonTiles.ofPicture {shared : List Pattern}
    (h : CommonTiles decode tree root common shared) :
    ∀ tile ∈ shared, OfPicture tile := by
  intro tile htile
  cases h with
  | none => exact absurd htile List.not_mem_nil
  | some loaded => exact ofPicture_of_mem_tiles htile

/-- What a background that could be encoded was made of. -/
lemma background_eq_ok
    (h : (fileEncoder decode tree root).background colorMode background common = .ok encoded) :
    ∃ picture shared, decode.load tree (background.path "backgrounds" root) = .ok picture ∧
      CommonTiles decode tree root common shared ∧
      encoded = encodeBackground colorMode shared picture := by
  cases hpicture : decode.load tree (background.path "backgrounds" root) with
  | error fault =>
    simp only [fileEncoder, hpicture] at h
    cases h
  | ok picture =>
    cases common with
    | none =>
      simp only [fileEncoder, hpicture] at h
      cases h
      exact ⟨picture, [], rfl, .none, rfl⟩
    | some tileset =>
      cases hshared : decode.load tree (tileset.path "tilesets" root) with
      | error fault =>
        simp only [fileEncoder, hpicture, hshared] at h
        cases h
      | ok shared =>
        simp only [fileEncoder, hpicture, hshared] at h
        cases h
        exact ⟨picture, tiles shared, rfl, .some hshared, rfl⟩

/-- A background that could be encoded has an entry of the map for each block of its picture, row
by row.  The shades of a block are found again, by its entry and its attribute, exactly when its
tile is among the first 256 of the distinct tiles, or the first 512 where there are colours. -/
theorem background_faithful_iff
    (h : (fileEncoder decode tree root).background colorMode background common = .ok encoded) :
    ∃ picture shared, decode.load tree (background.path "backgrounds" root) = .ok picture ∧
      CommonTiles decode tree root common shared ∧
      encoded.width = UInt32.ofNat (columns picture) ∧
      encoded.height = UInt32.ofNat (rows picture) ∧
      encoded.tilemap.length = columns picture * rows picture ∧
      ∀ k < columns picture * rows picture,
        decodeTile (shownTile encoded k) =
            shadesAt picture (k % columns picture) (k / columns picture) ↔
          tileIndex shared picture k < if colorMode = .mono then 256 else 512 := by
  obtain ⟨picture, shared, hpicture, hshared, rfl⟩ := background_eq_ok h
  refine ⟨picture, shared, hpicture, hshared, rfl, rfl, ?_, ?_⟩
  · rw [tilemap_encodeBackground, List.length_map, List.length_range]
  · intro k hk
    exact decodeTile_shownTile_iff hshared.ofPicture colorMode hk

/-- A white block beside a black one. -/
def twoBlocks : Picture := .ofShades 16 8 #[255, 0]

/-- A decoder for pictures of this size that are stored as the shades of their blocks. -/
def blockPictures : PictureDecoder :=
  storedPictures fun bytes => some (.ofShades 16 8 bytes.data)

/-- A project with a background and a tileset that hold the two blocks. -/
def twoBlockTree : FileTree where
  entries :=
    [(["p"], .folder), (["p", "assets"], .folder), (["p", "assets", "backgrounds"], .folder),
      (["p", "assets", "backgrounds", "a.png"], .file (.bytes ⟨#[255, 0]⟩) false),
      (["p", "assets", "tilesets"], .folder),
      (["p", "assets", "tilesets", "b.png"], .file (.bytes ⟨#[255, 0]⟩) false)]

theorem background_faithful_two_blocks :
    ∃ encoded,
      (fileEncoder blockPictures twoBlockTree ⟨"/p"⟩).background .mono { filename := "a.png" }
          (some { filename := "b.png" }) = .ok encoded ∧
      decodeTile (shownTile encoded 0) = shadesAt twoBlocks 0 0 ∧
      decodeTile (shownTile encoded 1) = shadesAt twoBlocks 1 0 := by
  have hencoded : (fileEncoder blockPictures twoBlockTree ⟨"/p"⟩).background .mono
      { filename := "a.png" } (some { filename := "b.png" }) =
        .ok (encodeBackground .mono (tiles twoBlocks) twoBlocks) := by rfl
  obtain ⟨picture, shared, hpicture, hshared, -, -, -, hfaithful⟩ :=
    background_faithful_iff hencoded
  obtain rfl : twoBlocks = picture := Except.ok.inj hpicture
  obtain ⟨⟩ | ⟨hloaded⟩ := hshared
  obtain rfl : twoBlocks = _ := Except.ok.inj hloaded
  refine ⟨_, hencoded, (hfaithful 0 (by decide)).mpr ?_, (hfaithful 1 (by decide)).mpr ?_⟩
  · exact (by decide +kernel : tileIndex (tiles twoBlocks) twoBlocks 0 < 256)
  · exact (by decide +kernel : tileIndex (tiles twoBlocks) twoBlocks 1 < 256)

end Cartridge.Tile
