import Mathlib.Data.List.Flatten
import Cartridge.Proofs.Source.FileSet
import Cartridge.Proofs.Tables.Symbols
import Cartridge.Source.Basic

/-!
# The stems of generated files

Every table is written to two files that are named after its symbol.  A table that belongs to an
object of the project has the symbol handed out for the object, or the name of a companion of it.
Tile data may be shared between backgrounds, parts of a scene may be left out, but an object never
has the same companion twice.  So the symbols of these tables are among the families of the objects,
none of them twice (`ownStems_subperm`), and the symbol of every object is one of them
(`objectSymbols_subset`).
-/

namespace Cartridge.Symbol

/-! ## Families -/

/-- The name of a companion. -/
def companion (name suffix : String) : String :=
  name ++ "_" ++ suffix

lemma companion_eq (name suffix : String) : companion name suffix = name ++ ("_" ++ suffix) :=
  String.append_assoc

lemma companion_inj {name first second : String}
    (h : companion name first = companion name second) : first = second := by
  have hchars := congrArg String.toList h
  simp only [companion, String.toList_append] at hchars
  exact String.toList_injective (List.append_cancel_left hchars)

lemma companion_ne (name suffix : String) : companion name suffix ≠ name := by
  intro h
  have hlength := congrArg (fun text => text.toList.length) h
  simp only [companion, String.toList_append, List.length_append] at hlength
  have hunderscore : "_".toList.length = 1 := rfl
  omega

lemma nodup_family (name : String) : (family name).Nodup := by
  rw [family, List.nodup_cons]
  constructor
  · intro hmem
    obtain ⟨suffix, -, heq⟩ := List.mem_map.mp hmem
    exact companion_ne name suffix heq
  · have hsuffixes : companionSuffixes.Nodup := by decide
    exact hsuffixes.map fun _ _ heq => companion_inj heq

/-- Some companions of a name, each once, and the name itself are among its family. -/
lemma companions_subperm_family {suffixes : List String} (hnodup : suffixes.Nodup)
    (hsubset : suffixes ⊆ companionSuffixes) (name : String) :
    (suffixes.map (companion name) ++ [name]).Subperm (family name) := by
  have hcompanions : (suffixes.map (companion name)).Subperm (companions name) :=
    List.subperm_of_subset (hnodup.map fun _ _ heq => companion_inj heq)
      (List.map_subset (companion name) hsubset)
  refine (List.perm_append_comm.subperm).trans ?_
  exact (List.subperm_cons name).mpr hcompanions

/-- Where each step adds a symbol and with it only names of its family, none of them twice, the
names stay among the families of the symbols. -/
lemma subperm_foldl {σ τ : Type} {step : σ → τ → σ} (symbols stems : σ → List String)
    (Keeps : σ → Prop)
    (hstep : ∀ state item, Keeps state → Keeps (step state item) ∧
      ∃ symbol added, symbols (step state item) = symbols state ++ [symbol] ∧
        (stems (step state item)).Perm (stems state ++ added) ∧ added.Subperm (family symbol))
    (items : List τ) (state : σ) (hkeeps : Keeps state)
    (hstems : (stems state).Subperm ((symbols state).flatMap family)) :
    (stems (items.foldl step state)).Subperm
      ((symbols (items.foldl step state)).flatMap family) := by
  induction items generalizing state with
  | nil => exact hstems
  | cons item rest ih =>
    obtain ⟨hkeeps', symbol, added, hsymbols, hperm, hadded⟩ := hstep state item hkeeps
    refine ih (step state item) hkeeps' ?_
    rw [hsymbols, List.flatMap_append, List.flatMap_singleton]
    exact hperm.subperm.trans (hstems.append hadded)

end Cartridge.Symbol

namespace Cartridge.Tables

open Cartridge.Project
open Cartridge.Symbol (family companion companion_eq companions_subperm_family subperm_foldl)
open Cartridge.Tile (EncodedBackground EncodedSprite)

/-! ## Backgrounds -/

/-- The symbols of all tables of backgrounds. -/
def Backgrounds.stems (table : Backgrounds) : List String :=
  table.tilesets.map (·.symbol) ++ table.tilemaps.map (·.symbol) ++
    table.attributes.map (·.symbol) ++ table.entries.map (·.symbol)

lemma TilesetStore.tilesets_intern (store : TilesetStore) (mayShare : Bool) (data : List UInt8)
    (symbol : String) :
    ∃ added, (store.intern mayShare data symbol).2.tilesets = store.tilesets ++ added ∧
      (added.map (·.symbol)).Sublist [symbol] := by
  unfold intern
  split
  · exact ⟨[], (List.append_nil _).symm, List.nil_sublist _⟩
  · exact ⟨[⟨symbol, data⟩], rfl, List.Sublist.refl _⟩

/-- Storing data adds at most the symbol it is stored under. -/
lemma TilesetStore.tilesets_internSome (store : TilesetStore) (mayShare : Bool) (data : List UInt8)
    (symbol : String) :
    ∃ added, (store.internSome mayShare data symbol).2.tilesets = store.tilesets ++ added ∧
      (added.map (·.symbol)).Sublist [symbol] := by
  rw [internSome]
  split_ifs
  · exact ⟨[], (List.append_nil _).symm, List.nil_sublist _⟩
  · exact store.tilesets_intern mayShare data symbol

lemma symbols_blobUnlessEmpty (symbol : String) (data : List UInt8) :
    ((blobUnlessEmpty symbol data).toList.map (·.symbol)).Sublist [symbol] := by
  rw [blobUnlessEmpty]
  split_ifs
  · exact List.nil_sublist _
  · exact List.Sublist.refl _

/-- The symbols that the tilesets of a background may have. -/
def tilesetSymbols (symbol : String) : List String :=
  [symbol ++ "_tileset", symbol ++ "_cgb_tileset"]

/-- A background adds at most one tileset under each of its two symbols. -/
lemma tilesets_addBackground {state : Backgrounds × TilesetStore}
    (hstore : state.1.tilesets = state.2.tilesets) (job : BackgroundJob)
    (encoded : EncodedBackground) :
    ∃ added, (addBackground state job encoded).1.tilesets = state.1.tilesets ++ added ∧
      (added.map (·.symbol)).Sublist (tilesetSymbols job.symbol) := by
  obtain ⟨table, store⟩ := state
  obtain ⟨first, hfirst, hfirst'⟩ := store.tilesets_internSome job.common.isSome encoded.bank1
    (job.symbol ++ "_tileset")
  obtain ⟨second, hsecond, hsecond'⟩ := TilesetStore.tilesets_internSome
    (store.internSome job.common.isSome encoded.bank1 (job.symbol ++ "_tileset")).2
    job.common.isSome encoded.bank2 (job.symbol ++ "_cgb_tileset")
  refine ⟨first ++ second, ?_, ?_⟩
  · rw [hstore, ← List.append_assoc, ← hfirst]
    exact hsecond
  · rw [List.map_append]
    exact hfirst'.append hsecond'

/-- The companions of a background. -/
def backgroundSuffixes : List String :=
  ["tileset", "cgb_tileset", "tilemap", "tilemap_attr"]

lemma stems_addBackground {state : Backgrounds × TilesetStore}
    (hstore : state.1.tilesets = state.2.tilesets) (job : BackgroundJob)
    (encoded : EncodedBackground) :
    ∃ added, (addBackground state job encoded).1.stems.Perm (state.1.stems ++ added) ∧
      added.Sublist (backgroundSuffixes.map (companion job.symbol) ++ [job.symbol]) := by
  obtain ⟨tilesets, htilesets, hsymbols⟩ := tilesets_addBackground hstore job encoded
  have htilemap := symbols_blobUnlessEmpty (job.symbol ++ "_tilemap") encoded.tilemap
  have hattributes := symbols_blobUnlessEmpty (job.symbol ++ "_tilemap_attr") encoded.attributes
  have hadded := (hsymbols.append htilemap).append hattributes
  have hsuffixes : tilesetSymbols job.symbol ++ [job.symbol ++ "_tilemap"] ++
      [job.symbol ++ "_tilemap_attr"] = backgroundSuffixes.map (companion job.symbol) := by
    simp only [backgroundSuffixes, List.map_cons, List.map_nil, companion_eq]
    rfl
  refine ⟨_, ?_, (hsuffixes ▸ hadded).append (.refl [job.symbol])⟩
  rw [List.perm_iff_count]
  intro name
  rw [Backgrounds.stems, htilesets]
  simp only [Backgrounds.stems, addBackground, List.map_append, List.count_append, List.map_cons,
    List.map_nil]
  omega

/-- Backgrounds have symbols of their families only, each at most once. -/
lemma stems_assembleBackgrounds (jobs : List BackgroundJob) (encoded : List EncodedBackground) :
    (assembleBackgrounds jobs encoded).stems.Subperm
      (((assembleBackgrounds jobs encoded).entries.map (·.symbol)).flatMap family) := by
  refine subperm_foldl
    (fun state : Backgrounds × TilesetStore => state.1.entries.map (·.symbol))
    (fun state => state.1.stems) (fun state => state.1.tilesets = state.2.tilesets) ?_
    (jobs.zip encoded) ({}, {}) rfl List.nil_subperm
  rintro state ⟨job, data⟩ hstore
  obtain ⟨added, hperm, hadded⟩ := stems_addBackground hstore job data
  refine ⟨rfl, job.symbol, added, ?_, hperm, ?_⟩
  · exact List.map_append
  · exact hadded.subperm.trans (companions_subperm_family (by decide) (by decide) job.symbol)

/-! ## Sprite sheets -/

/-- The symbols of all tables of sprite sheets. -/
def Sprites.stems (table : Sprites) : List String :=
  table.tilesets.map (·.symbol) ++ table.entries.map (·.symbol)

lemma stems_addSprite (mode : SpriteMode) (table : Sprites) (sheet : SpriteSheet) (symbol : String)
    (encoded : EncodedSprite) :
    ∃ added, (addSprite mode table sheet symbol encoded).stems.Perm (table.stems ++ added) ∧
      added.Sublist (["tileset", "bank2_tileset"].map (companion symbol) ++ [symbol]) := by
  simp only [List.map_cons, List.map_nil, companion_eq]
  by_cases hempty : encoded.bank2.isEmpty = true
  · refine ⟨[symbol ++ "_tileset", symbol], ?_, ?_⟩
    · rw [List.perm_iff_count]
      intro name
      simp only [Sprites.stems, addSprite, if_pos hempty, List.map_append, List.count_append,
        List.map_cons, List.map_nil, List.count_cons, List.count_nil, Option.toList_none]
      omega
    · exact .cons_cons _ (.cons _ (.refl _))
  · refine ⟨[symbol ++ "_tileset", symbol ++ "_bank2_tileset", symbol], ?_, .refl _⟩
    rw [List.perm_iff_count]
    intro name
    simp only [Sprites.stems, addSprite, if_neg hempty, List.map_append, List.count_append,
      List.map_cons, List.map_nil, List.count_cons, List.count_nil, Option.toList_some]
    omega

lemma stems_assembleSprites (mode : SpriteMode) (named : List (SpriteSheet × String))
    (encoded : List EncodedSprite) :
    (assembleSprites mode named encoded).stems.Subperm
      (((assembleSprites mode named encoded).entries.map (·.symbol)).flatMap family) := by
  refine subperm_foldl (fun table : Sprites => table.entries.map (·.symbol)) Sprites.stems
    (fun _ => True) ?_ (named.zip encoded) {} trivial List.nil_subperm
  rintro table ⟨⟨sheet, symbol⟩, data⟩ -
  obtain ⟨added, hperm, hadded⟩ := stems_addSprite mode table sheet symbol data
  refine ⟨trivial, symbol, added, ?_, hperm, ?_⟩
  · exact List.map_append
  · exact hadded.subperm.trans (companions_subperm_family (by decide) (by decide) symbol)

end Cartridge.Tables

namespace Cartridge.Source

open Cartridge.Compile (SceneScripts)
open Cartridge.Symbol (Allocator family companion companion_eq companions_subperm_family)
open Cartridge.Tables

/-! ## Scenes -/

/-- The companions of a scene. -/
def sceneSuffixes : List String :=
  ["collisions", "actors", "triggers", "sprites", "projectiles"]

/-- A table that may be left out has its symbol at most once. -/
lemma symbols_optional (isLeftOut : Bool) (table : Table) :
    ((if isLeftOut then none else some table).toList.map (·.symbol)).Sublist [table.symbol] := by
  split_ifs
  · exact List.nil_sublist _
  · exact List.Sublist.refl _

lemma stems_sceneTables (tables : Tables) (types : List String) (entry : SceneEntry)
    (scripts : SceneScripts) :
    ((sceneTables tables types entry scripts).map (·.symbol)).Sublist
      (sceneSuffixes.map (companion entry.symbol) ++ [entry.symbol]) := by
  have hactors : ((actorsTable? tables entry scripts).toList.map (·.symbol)).Sublist
      [entry.symbol ++ "_actors"] := symbols_optional _ _
  have htriggers : ((triggersTable? entry scripts).toList.map (·.symbol)).Sublist
      [entry.symbol ++ "_triggers"] := symbols_optional _ _
  have hsprites : ((spritesTable? tables entry).toList.map (·.symbol)).Sublist
      [entry.symbol ++ "_sprites"] := symbols_optional _ _
  have hprojectiles : ((projectilesTable? tables entry).toList.map (·.symbol)).Sublist
      [entry.symbol ++ "_projectiles"] := symbols_optional _ _
  simp only [sceneSuffixes, List.map_cons, List.map_nil, companion_eq]
  rw [sceneTables]
  simp only [List.map_append]
  exact (((((List.Sublist.refl _).append hactors).append htriggers).append hsprites).append
    hprojectiles).append (List.Sublist.refl _)

lemma stems_allSceneTables (input : Input) :
    ((allSceneTables input).map (·.symbol)).Subperm
      ((input.tables.scenes.map (·.symbol)).flatMap family) := by
  rw [allSceneTables]
  generalize input.tables.scenes = scenes
  generalize input.scripts = scripts
  induction scenes generalizing scripts with
  | nil => exact List.nil_subperm
  | cons entry rest ih =>
    cases scripts with
    | nil => exact List.nil_subperm
    | cons first others =>
      rw [List.zip_cons_cons, List.flatMap_cons, List.map_append, List.map_cons, List.flatMap_cons]
      have hentry := (stems_sceneTables input.tables input.usedTypes entry first).subperm.trans
        (companions_subperm_family (by decide) (by decide) entry.symbol)
      exact hentry.append (ih others)

/-! ## The files of objects -/

/-- The symbols of the objects that have files of their own. -/
def objectSymbols (tables : Tables) : List String :=
  tables.backgrounds.entries.map (·.symbol) ++ (tables.sprites.entries.map (·.symbol) ++
    (tables.tilesets.map (·.symbol) ++ (tables.fonts.map (·.symbol) ++
      (tables.emotes.map (·.symbol) ++ (tables.music.map (·.symbol) ++
        tables.scenes.map (·.symbol))))))

/-- The symbols of the tables that belong to objects of the project. -/
def ownStems (input : Input) : List String :=
  input.tables.backgrounds.stems ++ (input.tables.sprites.stems ++
    (input.tables.tilesets.map (·.symbol) ++ (input.tables.fonts.map (·.symbol) ++
      (input.tables.emotes.map (·.symbol) ++ (input.tables.music.map (·.symbol) ++
        (allSceneTables input).map (·.symbol))))))

lemma map_sublist_flatMap {α β : Type} {f : α → β} {g : α → List β} (h : ∀ a, f a ∈ g a)
    (items : List α) : (items.map f).Sublist (items.flatMap g) := by
  rw [List.map_eq_flatMap]
  exact List.Sublist.flatMap_right _ fun a _ => List.singleton_sublist.mpr (h a)

lemma sublist_flatMap_family (symbols : List String) :
    symbols.Sublist (symbols.flatMap family) := by
  have hself : (symbols.map id).Sublist (symbols.flatMap family) :=
    map_sublist_flatMap (fun _ => List.mem_cons_self) symbols
  rwa [List.map_id] at hself

/-- Objects with files of their own are among those that have a symbol. -/
lemma objectSymbols_sublist (tables : Tables) : (objectSymbols tables).Sublist tables.symbols := by
  have hscenes : (tables.scenes.map (·.symbol)).Sublist
      (tables.scenes.flatMap SceneEntry.symbols) :=
    map_sublist_flatMap (fun _ => List.mem_cons_self) _
  rw [objectSymbols, Tables.symbols]
  refine (List.Sublist.refl _).append ((List.Sublist.refl _).append ((List.Sublist.refl _).append
    ((List.Sublist.refl _).append ?_)))
  -- avatars and sounds stand between the others
  refine List.sublist_append_of_sublist_right ((List.Sublist.refl _).append ?_)
  exact List.sublist_append_of_sublist_right ((List.Sublist.refl _).append hscenes)

lemma soundSymbols_sublist (tables : Tables) :
    (tables.sounds.map (·.symbol)).Sublist tables.symbols := by
  rw [Tables.symbols]
  -- six classes stand before the sounds
  iterate 6 apply List.sublist_append_of_sublist_right
  exact List.sublist_append_left _ _

/-- Backgrounds and sprite sheets that were put together have symbols of their families only. -/
structure Assembled (tables : Tables) : Prop where
  backgrounds : tables.backgrounds.stems.Subperm
    ((tables.backgrounds.entries.map (·.symbol)).flatMap family)
  sprites : tables.sprites.stems.Subperm
    ((tables.sprites.entries.map (·.symbol)).flatMap family)

lemma assembled_build {input : Tables.Input} {tree : Files.FileTree} {a a' : Allocator}
    {tables : Tables} (h : (build input tree a).result = .ok (tables, a')) : Assembled tables := by
  obtain ⟨_, _, _, _, encoded, -, hencoded, -, -, htables⟩ := build_eq_ok h
  obtain ⟨backgrounds, sprites, mode, hbackgrounds, hsprites⟩ :=
    (carries_encodeAll hencoded).assembled
  constructor
  · rw [htables, hbackgrounds]
    exact stems_assembleBackgrounds _ _
  · rw [htables, hsprites]
    exact stems_assembleSprites _ _ _

/-- The tables of objects have symbols of the families of the objects, none of them twice. -/
lemma ownStems_subperm {input : Input} (h : Assembled input.tables) :
    (ownStems input).Subperm ((objectSymbols input.tables).flatMap family) := by
  rw [ownStems, objectSymbols]
  simp only [List.flatMap_append]
  have hself := fun symbols => (sublist_flatMap_family symbols).subperm
  exact h.backgrounds.append (h.sprites.append ((hself _).append ((hself _).append
    ((hself _).append ((hself _).append (stems_allSceneTables input))))))

lemma objectSymbols_subset {input : Input}
    (hscripts : input.tables.scenes.length ≤ input.scripts.length) :
    objectSymbols input.tables ⊆ ownStems input := by
  have hscenes : input.tables.scenes.map (·.symbol) ⊆
      (allSceneTables input).map (·.symbol) := by
    intro symbol hsymbol
    rw [← List.map_fst_zip hscripts, List.map_map] at hsymbol
    obtain ⟨⟨entry, scripts⟩, hpair, rfl⟩ := List.mem_map.mp hsymbol
    rw [allSceneTables, List.map_flatMap]
    refine List.mem_flatMap.mpr ⟨(entry, scripts), hpair, ?_⟩
    -- the table of the scene itself is the last of its tables
    exact List.mem_map.mpr ⟨_, List.mem_append_right _ (List.mem_singleton_self _), rfl⟩
  intro symbol hsymbol
  simp only [objectSymbols, ownStems, List.mem_append] at hsymbol ⊢
  -- class by class; backgrounds and sprite sheets stand behind their companions
  exact hsymbol.imp (List.mem_append_right _) (.imp (List.mem_append_right _)
    (.imp id (.imp id (.imp id (.imp id (hscenes ·))))))

end Cartridge.Source
