import Cartridge.Proofs.Tables.Symbols

/-!
# What the tables refer to

The entries of the tables refer to each other: a background to its tile data, which may be stored
for an earlier one, a sprite sheet to its tiles, a scene to a background, to palette sets and to
sprite sheets.  None of these references leads nowhere (`closed_assembleBackgrounds`,
`closed_assembleSprites`, `complete_build`).
-/

namespace Cartridge.Tables

open Cartridge.Digest (Key)
open Cartridge.Project
open Cartridge.Symbol (Allocator)
open Cartridge.Tile (EncodedBackground EncodedSprite)

/-! ## Backgrounds -/

/-- The data that a background points to. -/
def BackgroundEntry.parts (entry : BackgroundEntry) : List String :=
  entry.tileset.toList ++ entry.colorTileset.toList ++ entry.tilemap.toList ++
    entry.attributes.toList

/-- The symbols of the data of all backgrounds. -/
def Backgrounds.dataSymbols (table : Backgrounds) : List String :=
  table.tilesets.map (·.symbol) ++ table.tilemaps.map (·.symbol) ++
    table.attributes.map (·.symbol)

/-- Backgrounds point to data that is there. -/
def Backgrounds.Closed (table : Backgrounds) : Prop :=
  ∀ entry ∈ table.entries, entry.parts ⊆ table.dataSymbols

namespace TilesetStore

/-- Every content that is known is stored under its symbol. -/
def Keeps (store : TilesetStore) : Prop :=
  ∀ entry ∈ store.known, entry.2 ∈ store.tilesets.map (·.symbol)

variable {store : TilesetStore}

lemma keeps_push (h : store.Keeps) (data : List UInt8) (symbol : String) :
    (store.push data symbol).Keeps := by
  rintro ⟨key, name⟩ hentry
  rw [push, List.map_append, List.mem_append]
  rcases List.mem_cons.mp hentry with heq | hknown
  · cases heq
    exact .inr (List.mem_singleton_self _)
  · exact .inl (h _ hknown)

lemma mem_of_lookup_eq_some {known : List (Key × String)} {key : Key} {symbol : String}
    (h : known.lookup key = some symbol) : (key, symbol) ∈ known := by
  obtain ⟨front, back, rfl, -⟩ := List.lookup_eq_some_iff.mp h
  exact List.mem_append_right _ List.mem_cons_self

/-- Data is stored under the symbol that is given for it, or was before. -/
lemma keeps_intern (h : store.Keeps) (mayShare : Bool) (data : List UInt8) (symbol : String) :
    (store.intern mayShare data symbol).2.Keeps ∧
      store.tilesets ⊆ (store.intern mayShare data symbol).2.tilesets ∧
      (store.intern mayShare data symbol).1 ∈
        (store.intern mayShare data symbol).2.tilesets.map (·.symbol) := by
  unfold intern
  split
  · rename_i existing hexisting
    exact ⟨h, List.Subset.refl _, h _ (mem_of_lookup_eq_some hexisting)⟩
  · refine ⟨keeps_push h data symbol, List.subset_append_left _ _, ?_⟩
    exact List.mem_map.mpr
      ⟨⟨symbol, data⟩, List.mem_append_right _ (List.mem_singleton_self _), rfl⟩

lemma keeps_internSome (h : store.Keeps) (mayShare : Bool) (data : List UInt8) (symbol : String) :
    (store.internSome mayShare data symbol).2.Keeps ∧
      store.tilesets ⊆ (store.internSome mayShare data symbol).2.tilesets ∧
      ∀ name ∈ (store.internSome mayShare data symbol).1.toList,
        name ∈ (store.internSome mayShare data symbol).2.tilesets.map (·.symbol) := by
  rw [internSome]
  split_ifs
  · exact ⟨h, List.Subset.refl _, by simp⟩
  · obtain ⟨hkeeps, hsubset, hmem⟩ := keeps_intern h mayShare data symbol
    refine ⟨hkeeps, hsubset, fun name hname => ?_⟩
    rw [Option.toList_some, List.mem_singleton] at hname
    rwa [hname]

end TilesetStore

/-- What holds while backgrounds are added. -/
structure Storing (state : Backgrounds × TilesetStore) : Prop where
  tilesets : state.1.tilesets = state.2.tilesets
  keeps : state.2.Keeps
  closed : state.1.Closed

lemma storing_addBackground {state : Backgrounds × TilesetStore} (h : Storing state)
    (job : BackgroundJob) (encoded : EncodedBackground) :
    Storing (addBackground state job encoded) := by
  obtain ⟨table, store⟩ := state
  obtain ⟨hkeeps, hfirst, htileset⟩ := TilesetStore.keeps_internSome h.keeps job.common.isSome
    encoded.bank1 (job.symbol ++ "_tileset")
  obtain ⟨hkeeps', hsecond, hcolor⟩ := TilesetStore.keeps_internSome hkeeps job.common.isSome
    encoded.bank2 (job.symbol ++ "_cgb_tileset")
  refine ⟨rfl, hkeeps', fun entry hentry => ?_⟩
  have hold : table.tilesets ⊆ (addBackground (table, store) job encoded).1.tilesets := by
    rw [h.tilesets]
    exact List.Subset.trans hfirst hsecond
  intro symbol hsymbol
  rcases List.mem_append.mp hentry with hbefore | hnew
  · have hmem := h.closed entry hbefore hsymbol
    simp only [Backgrounds.dataSymbols, addBackground, List.map_append, List.mem_append] at hmem ⊢
    exact hmem.imp (.imp (List.map_subset _ hold ·) .inl) .inl
  · rw [List.mem_singleton] at hnew
    subst hnew
    simp only [BackgroundEntry.parts, List.mem_append] at hsymbol
    simp only [Backgrounds.dataSymbols, addBackground, List.map_append, List.mem_append]
    rcases hsymbol with ((hmem | hmem) | hmem) | hmem
    · exact .inl (.inl (List.map_subset _ hsecond (htileset _ hmem)))
    · exact .inl (.inl (hcolor _ hmem))
    · exact .inl (.inr (.inr (by simpa using hmem)))
    · exact .inr (.inr (by simpa using hmem))

lemma closed_assembleBackgrounds (jobs : List BackgroundJob) (encoded : List EncodedBackground) :
    (assembleBackgrounds jobs encoded).Closed := by
  have hstart : Storing ({}, {}) :=
    ⟨rfl, by simp [TilesetStore.Keeps], by simp [Backgrounds.Closed]⟩
  exact (List.foldlRecOn (jobs.zip encoded) _ hstart
    fun _ hstate pair _ => storing_addBackground hstate pair.1 pair.2).closed

/-! ## Sprite sheets -/

/-- The data that a sprite sheet points to. -/
def SpriteEntry.parts (entry : SpriteEntry) : List String :=
  entry.tileset :: entry.bank2Tileset.toList

/-- Sprite sheets point to data that is there. -/
def Sprites.Closed (table : Sprites) : Prop :=
  ∀ entry ∈ table.entries, entry.parts ⊆ table.tilesets.map (·.symbol)

lemma closed_addSprite {table : Sprites} (h : table.Closed) (mode : SpriteMode)
    (sheet : SpriteSheet) (symbol : String) (encoded : EncodedSprite) :
    (addSprite mode table sheet symbol encoded).Closed := by
  intro entry hentry name hname
  simp only [addSprite, List.map_append, List.mem_append]
  rcases List.mem_append.mp hentry with hbefore | hnew
  · exact .inl (h entry hbefore hname)
  · rw [List.mem_singleton] at hnew
    subst hnew
    right
    simpa [SpriteEntry.parts] using hname

lemma closed_assembleSprites (mode : SpriteMode) (named : List (SpriteSheet × String))
    (encoded : List EncodedSprite) : (assembleSprites mode named encoded).Closed :=
  List.foldlRecOn (named.zip encoded) _ (by simp [Sprites.Closed])
    fun _ htable pair _ => closed_addSprite htable mode pair.1.1 pair.1.2 pair.2

/-- The sheet with an id stands at a place of the table. -/
def Sprites.Has (table : Sprites) (id : String) : Prop :=
  ∃ place sheet, table.place? id = some place ∧ table.entries[place]? = some sheet ∧
    table.get? id = some sheet

lemma Sprites.has_of_isSome {table : Sprites} {id : String} (h : (table.get? id).isSome = true) :
    table.Has id := by
  obtain ⟨sheet, hsheet⟩ := Option.isSome_iff_exists.mp h
  obtain ⟨hid, place, hplace, hget, hbefore⟩ := List.find?_eq_some_iff_getElem.mp hsheet
  refine ⟨place, sheet, ?_, ?_, hsheet⟩
  · rw [Sprites.place?, List.findIdx?_eq_some_iff_getElem]
    refine ⟨hplace, hget ▸ hid, fun j hj => ?_⟩
    simpa using hbefore j hj
  · rw [List.getElem?_eq_getElem hplace, hget]

/-! ## Palettes -/

lemma internSet_lt (stored : List (Key × PaletteSet)) (set : PaletteSet) :
    (internSet stored set).1 < (internSet stored set).2.length ∧
      stored.length ≤ (internSet stored set).2.length := by
  rw [internSet]
  split
  · rename_i place hplace
    obtain ⟨hlt, -⟩ := List.findIdx?_eq_some_iff_getElem.mp hplace
    exact ⟨hlt, Nat.le_refl _⟩
  · rw [List.length_append, List.length_singleton]
    exact ⟨Nat.lt_succ_self _, Nat.le_succ _⟩

/-- Every set has a place among the stored ones. -/
lemma internSets_lt (stored : List (Key × PaletteSet)) (sets : List PaletteSet) :
    (internSets stored sets).1.length = sets.length ∧
      stored.length ≤ (internSets stored sets).2.length ∧
      ∀ place ∈ (internSets stored sets).1, place < (internSets stored sets).2.length := by
  induction sets generalizing stored with
  | nil => simp [internSets]
  | cons set rest ih =>
    obtain ⟨hlt, hle⟩ := internSet_lt stored set
    obtain ⟨hlength, hgrow, hplaces⟩ := ih (internSet stored set).2
    rw [internSets]
    refine ⟨by rw [List.length_cons, List.length_cons, hlength], Nat.le_trans hle hgrow, ?_⟩
    rw [List.forall_mem_cons]
    exact ⟨Nat.lt_of_lt_of_le hlt hgrow, hplaces⟩

lemma exists_lastOf?_zip {names : List String} {values : List Nat}
    (hlength : values.length = names.length) {name : String} (h : name ∈ names) :
    ∃ value ∈ values, lastOf? (names.zip values) name = some value := by
  rw [← List.map_fst_zip (Nat.le_of_eq hlength.symm)] at h
  obtain ⟨entry, hentry, hname⟩ := List.mem_map.mp h
  have hsome : ((names.zip values).reverse.find? fun entry => entry.1 == name).isSome = true := by
    rw [List.find?_isSome]
    exact ⟨entry, List.mem_reverse.mpr hentry, beq_iff_eq.mpr hname⟩
  obtain ⟨found, hfound⟩ := Option.isSome_iff_exists.mp hsome
  have hmem := List.mem_reverse.mp (List.mem_of_find?_eq_some hfound)
  exact ⟨found.2, (List.of_mem_zip hmem).2, by rw [lastOf?, hfound, Option.map_some]⟩

lemma sceneBackground_buildPalettes (project : Project) (backgrounds : Backgrounds) :
    (buildPalettes project backgrounds).sceneBackground =
      (project.scenes.map (·.id)).zip
        (internSets [] (project.scenes.map (backgroundSet project backgrounds))).1 :=
  rfl

variable {scene : Scene}

/-- Both palette sets of a scene are there. -/
lemma exists_palettes_of_mem (project : Project) (backgrounds : Backgrounds)
    (h : scene ∈ project.scenes) :
    let palettes := buildPalettes project backgrounds
    (∃ place < palettes.sets.length, lastOf? palettes.sceneBackground scene.id = some place) ∧
      ∃ place < palettes.sets.length, lastOf? palettes.sceneSprites scene.id = some place := by
  intro palettes
  obtain ⟨hlength, -, hplaces⟩ := internSets_lt []
    (project.scenes.map (backgroundSet project backgrounds))
  obtain ⟨hlength', hgrow, hplaces'⟩ := internSets_lt
    (internSets [] (project.scenes.map (backgroundSet project backgrounds))).2
    (project.scenes.map (spriteSet project))
  have hid : scene.id ∈ project.scenes.map (·.id) := List.mem_map.mpr ⟨scene, h, rfl⟩
  have hsets : palettes.sets.length = (internSets
      (internSets [] (project.scenes.map (backgroundSet project backgrounds))).2
      (project.scenes.map (spriteSet project))).2.length := List.length_map _
  rw [List.length_map] at hlength hlength'
  constructor
  · obtain ⟨place, hplace, hlast⟩ := exists_lastOf?_zip (by rw [hlength, List.length_map]) hid
    exact ⟨place, hsets ▸ Nat.lt_of_lt_of_le (hplaces place hplace) hgrow, hlast⟩
  · obtain ⟨place, hplace, hlast⟩ := exists_lastOf?_zip (by rw [hlength', List.length_map]) hid
    exact ⟨place, hsets ▸ hplaces' place hplace, hlast⟩

/-! ## Scenes -/

/-- What a scene takes from backgrounds and sprite sheets is there. -/
structure Fits (backgrounds : Backgrounds) (sprites : Sprites) (entry : SceneEntry) : Prop where
  background : entry.background < backgrounds.entries.length
  playerSprite : ∀ id ∈ entry.playerSprite, sprites.Has id
  actors : ∀ actor ∈ entry.actors, sprites.Has actor.entity.spriteSheetId
  sprites : ∀ id ∈ entry.sprites, sprites.Has id

lemma has_choosePlayerSprite {input : SceneInput} {chosen : Option String}
    (h : (choosePlayerSprite input scene).result = .ok chosen) :
    ∀ id ∈ chosen, input.sprites.Has id := by
  intro id hid
  rw [choosePlayerSprite] at h
  split at h
  · rename_i sprite hsprite
    cases h
    cases hid
    have hself : input.sprites.get? sprite.id = some sprite := by
      have hfound := List.find?_some hsprite
      rw [beq_iff_eq] at hfound
      rw [hfound]
      exact hsprite
    exact Sprites.has_of_isSome (by rw [hself]; rfl)
  · split_ifs at h
    · cases h
      cases hid
    · cases h
      obtain ⟨sprite, hsprite, rfl⟩ := Option.map_eq_some_iff.mp hid
      refine Sprites.has_of_isSome ?_
      rw [Sprites.get?, List.find?_isSome]
      exact ⟨sprite, List.mem_of_head? hsprite, beq_self_eq_true _⟩

lemma lt_of_placeOf? {table : Backgrounds} {place : Nat} (h : table.placeOf? scene = some place) :
    place < table.entries.length := by
  rw [Backgrounds.placeOf?, Option.or_eq_some_iff] at h
  rcases h with hvariant | ⟨-, hany⟩
  · exact (List.findIdx?_eq_some_iff_getElem.mp hvariant).1
  · exact (List.findIdx?_eq_some_iff_getElem.mp hany).1

lemma Built.fits {input : SceneInput} {entry : SceneEntry} (h : Built input entry) :
    Fits input.backgrounds input.sprites entry := by
  refine ⟨lt_of_placeOf? h.background, has_choosePlayerSprite h.playerSprite,
    fun actor hactor => ?_, fun id hid => ?_⟩
  · have hkept := h.actors ▸ List.mem_map_of_mem (f := Placed.entity) hactor
    exact Sprites.has_of_isSome (List.mem_filter.mp hkept).2
  · obtain ⟨shown, hshown⟩ := h.sprites
    rw [hshown] at hid
    exact Sprites.has_of_isSome (List.mem_filter.mp (List.mem_eraseDups.mp hid)).2

/-- Everything that a scene refers to by a place or an id is there. -/
structure Resolves (tables : Tables) (entry : SceneEntry) : Prop
    extends Fits tables.backgrounds tables.sprites entry where
  palette : ∃ place < tables.palettes.sets.length,
    lastOf? tables.palettes.sceneBackground entry.scene.id = some place
  spritePalette : ∃ place < tables.palettes.sets.length,
    lastOf? tables.palettes.sceneSprites entry.scene.id = some place

/-- Nothing in the tables refers to what is not there. -/
structure Complete (tables : Tables) : Prop where
  backgrounds : tables.backgrounds.Closed
  sprites : tables.sprites.Closed
  scenes : ∀ entry ∈ tables.scenes, Resolves tables entry

lemma complete_build {input : Input} {tree : Files.FileTree} {a a' : Allocator} {tables : Tables}
    (h : (build input tree a).result = .ok (tables, a')) : Complete tables := by
  obtain ⟨hscenes, hbuilt⟩ := built_of_build h
  have hpalettes := palettes_build h
  obtain ⟨_, _, _, _, encoded, -, hencoded, -, -, htables⟩ := build_eq_ok h
  obtain ⟨backgrounds, sprites, mode, hbackgrounds, hsprites⟩ :=
    (carries_encodeAll hencoded).assembled
  refine ⟨?_, ?_, fun entry hentry => ?_⟩
  · rw [htables, hbackgrounds]
    exact closed_assembleBackgrounds _ _
  · rw [htables, hsprites]
    exact closed_assembleSprites _ _ _
  · have hscene : entry.scene ∈ input.project.scenes := hscenes ▸ List.mem_map_of_mem hentry
    obtain ⟨hpalette, hsprite⟩ := exists_palettes_of_mem input.project tables.backgrounds hscene
    rw [← hpalettes] at hpalette hsprite
    exact ⟨(hbuilt entry hentry).fits, hpalette, hsprite⟩

end Cartridge.Tables
