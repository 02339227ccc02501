import Cartridge.Proofs.Tables.Scenes

/-!
# The symbols in the tables

Symbols are handed out class by class before anything is encoded, and scene by scene afterwards.
What is encoded keeps the id and the symbol it was named with (`Carries`), one entry for each name.
So the symbols in the tables of a project are those that were handed out on the way, in order, and
nothing else was (`hands_build`).
-/

namespace Cartridge.Tables

open Cartridge.Compile (Error)
open Cartridge.Files (FilePath FileTree)
open Cartridge.Project
open Cartridge.Symbol (Allocator family)
open Cartridge.Symbol.Allocator (Hands)
open Cartridge.Tile (Encoder EncodedBackground EncodedSprite)

/-! ## Names -/

lemma map_fst_nameAssets (word : String) (assets : List Asset) (a : Allocator) :
    (nameAssets word assets a).1.map Prod.fst = assets :=
  map_fst_zip_allocateAll a (List.length_map _)

lemma hands_nameAssets (word : String) (assets : List Asset) (a : Allocator) :
    Hands a (((nameAssets word assets a).1.map Prod.snd).map family)
      (nameAssets word assets a).2 := by
  rw [nameAssets]
  exact hands_zip a (List.length_map _)

lemma map_fst_planSprites (used : List SpriteSheet) (a : Allocator) :
    (planSprites used a).1.map Prod.fst = used :=
  map_fst_zip_allocateAll a (List.length_map _)

lemma hands_planSprites (used : List SpriteSheet) (a : Allocator) :
    Hands a (((planSprites used a).1.map Prod.snd).map family) (planSprites used a).2 := by
  rw [planSprites]
  exact hands_zip a (List.length_map _)

lemma map_background_planBackgrounds (project : Project) (used : List Background) (a : Allocator) :
    (planBackgrounds project used a).1.map (·.background) =
      (used.flatMap (variantsOf project)).map Prod.fst := by
  rw [planBackgrounds]
  dsimp only
  generalize hvariants : used.flatMap (variantsOf project) = variants
  have hfst := map_fst_zip_allocateAll a
    (variants.length_map fun v => (v.1.symbol, "bg_" ++ v.1.name))
  conv_rhs => rw [← hfst]
  rw [List.map_map, List.map_map]
  rfl

lemma hands_planBackgrounds (project : Project) (used : List Background) (a : Allocator) :
    Hands a (((planBackgrounds project used a).1.map (·.symbol)).map family)
      (planBackgrounds project used a).2 := by
  rw [planBackgrounds]
  exact hands_map_zip a (List.length_map _) fun _ => rfl

/-- The symbols of all named assets, in the order in which they are handed out. -/
def Names.symbols (names : Names) : List String :=
  names.backgrounds.map (·.symbol) ++ (names.sprites.map Prod.snd ++
    (names.tilesets.map Prod.snd ++ (names.fonts.map Prod.snd ++ (names.avatars.map Prod.snd ++
      (names.emotes.map Prod.snd ++ (names.sounds.map Prod.snd ++
        names.music.pieces.map Prod.snd))))))

lemma hands_nameAll (project : Project) (usage : Usage) (a : Allocator) :
    Hands a ((nameAll project usage a).1.symbols.map family) (nameAll project usage a).2 := by
  simp only [Names.symbols, List.map_append]
  exact (hands_planBackgrounds project _ a).append ((hands_planSprites _ _).append
    ((hands_nameAssets "tileset" _ _).append ((hands_nameAssets "font" _ _).append
      ((hands_nameAssets "avatar" _ _).append ((hands_nameAssets "emote" _ _).append
        ((hands_nameAssets "sound" _ _).append (hands_nameAssets "song" _ _)))))))

/-! ## Encoded assets -/

/-- What an asset is known by. -/
def AssetData.reference (asset : AssetData) : String × String :=
  (asset.id, asset.symbol)

lemma reference_encodeAssets {folder : String} {root : FilePath}
    {encode : FilePath → Except Error (List UInt8)} {named : List (Asset × String)}
    {assets : List AssetData} (h : encodeAssets folder root encode named = .ok assets) :
    assets.map AssetData.reference = named.map fun entry => (entry.1.id, entry.2) := by
  refine map_eq_map_of_forall₂ ?_ (forall₂_of_mapM_eq_ok h)
  intro entry asset hasset
  obtain ⟨data, -, hdata⟩ := bind_eq_ok.mp hasset
  cases hdata
  rfl

/-- What a background is known by. -/
def BackgroundEntry.reference (entry : BackgroundEntry) : String × String :=
  (entry.id, entry.symbol)

lemma reference_foldl_addBackground (pairs : List (BackgroundJob × EncodedBackground))
    (state : Backgrounds × TilesetStore) :
    (pairs.foldl (fun state pair => addBackground state pair.1 pair.2)
        state).1.entries.map BackgroundEntry.reference =
      state.1.entries.map BackgroundEntry.reference ++
        pairs.map fun pair => (pair.1.background.id, pair.1.symbol) := by
  induction pairs generalizing state with
  | nil => simp
  | cons pair rest ih =>
    rw [List.foldl_cons, ih, List.map_cons]
    simp [addBackground, BackgroundEntry.reference]

variable {encoder : Encoder}

lemma reference_assembleBackgrounds {mode : ColorMode} {jobs : List BackgroundJob}
    {encoded : List EncodedBackground} (h : encodeBackgrounds encoder mode jobs = .ok encoded) :
    (assembleBackgrounds jobs encoded).entries.map BackgroundEntry.reference =
      jobs.map fun job => (job.background.id, job.symbol) := by
  have hlength : jobs.length ≤ encoded.length :=
    Nat.le_of_eq (forall₂_of_mapM_eq_ok h).length_eq
  rw [assembleBackgrounds, reference_foldl_addBackground]
  conv_rhs => rw [← List.map_fst_zip hlength, List.map_map]
  rfl

/-- What a sprite sheet is known by. -/
def SpriteEntry.reference (entry : SpriteEntry) : String × String :=
  (entry.id, entry.symbol)

lemma reference_foldl_addSprite (mode : SpriteMode)
    (pairs : List ((SpriteSheet × String) × EncodedSprite)) (table : Sprites) :
    (pairs.foldl (fun table pair => addSprite mode table pair.1.1 pair.1.2 pair.2)
        table).entries.map SpriteEntry.reference =
      table.entries.map SpriteEntry.reference ++ pairs.map fun pair => (pair.1.1.id, pair.1.2) := by
  induction pairs generalizing table with
  | nil => simp
  | cons pair rest ih =>
    rw [List.foldl_cons, ih, List.map_cons]
    simp [addSprite, SpriteEntry.reference]

lemma reference_assembleSprites {mode : SpriteMode} {named : List (SpriteSheet × String)}
    {encoded : List EncodedSprite} (h : encodeSprites encoder named = .ok encoded) :
    (assembleSprites mode named encoded).entries.map SpriteEntry.reference =
      named.map fun entry => (entry.1.id, entry.2) := by
  have hlength : named.length ≤ encoded.length :=
    Nat.le_of_eq (forall₂_of_mapM_eq_ok h).length_eq
  rw [assembleSprites, reference_foldl_addSprite]
  conv_rhs => rw [← List.map_fst_zip hlength, List.map_map]
  rfl

/-- Encoded assets are those that were named, under the same ids and symbols. -/
structure Carries (names : Names) (encoded : Encoded) : Prop where
  backgrounds : encoded.backgrounds.entries.map BackgroundEntry.reference =
    names.backgrounds.map fun job => (job.background.id, job.symbol)
  sprites : encoded.sprites.entries.map SpriteEntry.reference =
    names.sprites.map fun entry => (entry.1.id, entry.2)
  tilesets : encoded.tilesets.map AssetData.reference =
    names.tilesets.map fun entry => (entry.1.id, entry.2)
  fonts : encoded.fonts.map AssetData.reference =
    names.fonts.map fun entry => (entry.1.id, entry.2)
  avatars : encoded.avatars.map AssetData.reference =
    names.avatars.map fun entry => (entry.1.id, entry.2)
  emotes : encoded.emotes.map AssetData.reference =
    names.emotes.map fun entry => (entry.1.id, entry.2)
  music : encoded.music.map AssetData.reference =
    names.music.pieces.map fun entry => (entry.1.id, entry.2)
  sounds : encoded.sounds.map AssetData.reference =
    names.sounds.map fun entry => (entry.1.id, entry.2)
  /-- The tables of backgrounds and sprite sheets are put together one by one. -/
  assembled : ∃ backgrounds sprites mode,
    encoded.backgrounds = assembleBackgrounds names.backgrounds backgrounds ∧
      encoded.sprites = assembleSprites mode names.sprites sprites

lemma carries_encodeAll {project : Project} {root : FilePath} {names : Names}
    {frame cursor : FilePath} {encoded : Encoded}
    (h : encodeAll project root encoder names frame cursor = .ok encoded) :
    Carries names encoded := by
  unfold encodeAll at h
  simp only [bind_eq_ok] at h
  obtain ⟨backgrounds, hbackgrounds, sprites, hsprites, tilesets, htilesets, fonts, hfonts,
    avatars, havatars, emotes, hemotes, music, hmusic, sounds, hsounds, _, -, _, -, h⟩ := h
  cases h
  exact {
    backgrounds := reference_assembleBackgrounds hbackgrounds
    sprites := reference_assembleSprites hsprites
    tilesets := reference_encodeAssets htilesets
    fonts := reference_encodeAssets hfonts
    avatars := reference_encodeAssets havatars
    emotes := reference_encodeAssets hemotes
    music := reference_encodeAssets hmusic
    sounds := reference_encodeAssets hsounds
    assembled := ⟨backgrounds, sprites, _, rfl, rfl⟩ }

/-- A class of assets keeps its symbols. -/
lemma map_symbol_of_reference {α β : Type} {entries : List α} {named : List β}
    {reference : α → String × String} {pair : β → String × String}
    (h : entries.map reference = named.map pair) :
    (entries.map fun entry => (reference entry).2) = named.map fun entry => (pair entry).2 := by
  have hsnd := congrArg (List.map Prod.snd) h
  rwa [List.map_map, List.map_map] at hsnd

/-! ## All tables -/

/-- The symbols in the tables, in the order in which they are handed out. -/
def symbols (tables : Tables) : List String :=
  tables.backgrounds.entries.map (·.symbol) ++ (tables.sprites.entries.map (·.symbol) ++
    (tables.tilesets.map (·.symbol) ++ (tables.fonts.map (·.symbol) ++
      (tables.avatars.map (·.symbol) ++ (tables.emotes.map (·.symbol) ++
        (tables.sounds.map (·.symbol) ++ (tables.music.map (·.symbol) ++
          tables.scenes.flatMap SceneEntry.symbols)))))))

section

variable {input : Input} {tree : FileTree} {a a' : Allocator} {tables : Tables}

/-- The symbols in the tables are those that were handed out while the tables were built. -/
lemma hands_build (h : (build input tree a).result = .ok (tables, a')) :
    Hands a (tables.symbols.map family) a' := by
  obtain ⟨_, _, _, _, encoded, -, hencoded, hscenes, -, htables⟩ := build_eq_ok h
  have hcarries := carries_encodeAll hencoded
  have hnames : tables.symbols =
      (nameAll input.project (Usage.ofProject input.project input.schema) a).1.symbols ++
        tables.scenes.flatMap SceneEntry.symbols := by
    simp only [symbols, Names.symbols, List.append_assoc]
    rw [htables, ← map_symbol_of_reference hcarries.backgrounds,
      ← map_symbol_of_reference hcarries.sprites, ← map_symbol_of_reference hcarries.tilesets,
      ← map_symbol_of_reference hcarries.fonts, ← map_symbol_of_reference hcarries.avatars,
      ← map_symbol_of_reference hcarries.emotes, ← map_symbol_of_reference hcarries.music,
      ← map_symbol_of_reference hcarries.sounds]
    rfl
  rw [hnames, List.map_append]
  exact (hands_nameAll _ _ a).append (built_of_buildScenes hscenes).2.2.2

end

end Cartridge.Tables
