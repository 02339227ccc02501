import Cartridge.Proofs.Source.Stems
import Cartridge.Proofs.Symbol.LastWord

/-!
# The generator's own file names

Some files are named by the generator itself, without asking for a name: palettes and fonts of
avatars are numbered, the others have fixed names.  `reserved` lists them.  No two of them are
called alike (`nodup_reservedStems`), and no companion of an object and no shared script is called
like one of them (`companion_not_mem_reservedStems`, `sharedName_not_mem_reservedStems`).

All other files belong to symbols that were handed out (`names_dataFiles`).
-/

namespace Cartridge.Source

open Cartridge.Symbol
open Cartridge.Tables

/-! ## The generator's own files -/

/-- The files of a table. -/
def tableOutput (symbol : String) : String × List Char :=
  (symbol, ['c', 'h'])

/-- The symbols of the tables that the generator names itself. -/
def reservedTables (tables : Tables) : List String :=
  (List.range tables.palettes.sets.length).map (Allocator.numbered "palette") ++
    (List.range (avatarTables tables.avatars).length).map (Allocator.numbered "avatar_font") ++
    ["spritesheet_none", "frame_image", "cursor_image"]

/-- The files that describe the whole game. -/
def gameOutputs : List (String × List Char) :=
  [("music_data", ['h']), ("game_globals", ['i', 'h']), ("scene_types", ['h']),
    ("data_bootstrap", ['h']), ("script_engine_init", ['s', 'h']), ("game_signature", ['c'])]

/-- The files that the generator names itself. -/
def reserved (tables : Tables) : List (String × List Char) :=
  (reservedTables tables).map tableOutput ++ gameOutputs

/-- The stems that the generator takes without asking. -/
def reservedStems (tables : Tables) : List String :=
  (reserved tables).map Prod.fst

/-- The reserved stems that do not depend on the project. -/
def fixedStems : List String :=
  ["spritesheet_none", "frame_image", "cursor_image", "music_data", "game_globals", "scene_types",
    "data_bootstrap", "script_engine_init", "game_signature"]

lemma map_fst_tableOutput (symbols : List String) :
    (symbols.map tableOutput).map Prod.fst = symbols := by
  rw [List.map_map]
  exact List.map_id symbols

lemma reservedStems_eq (tables : Tables) :
    reservedStems tables =
      (List.range tables.palettes.sets.length).map (Allocator.numbered "palette") ++
        ((List.range (avatarTables tables.avatars).length).map (Allocator.numbered "avatar_font") ++
          fixedStems) := by
  rw [reservedStems, reserved, List.map_append, map_fst_tableOutput, reservedTables]
  simp only [List.append_assoc]
  rfl

/-! ## What a reserved stem looks like -/

variable {tables : Tables} {stem : String}

lemma mem_reservedStems (h : stem ∈ reservedStems tables) :
    (∃ n, stem = Allocator.numbered "palette" n ∨ stem = Allocator.numbered "avatar_font" n) ∨
      stem ∈ fixedStems := by
  rw [reservedStems_eq, List.mem_append, List.mem_append, List.mem_map, List.mem_map] at h
  rcases h with ⟨n, -, rfl⟩ | ⟨n, -, rfl⟩ | hfixed
  · exact .inl ⟨n, .inl rfl⟩
  · exact .inl ⟨n, .inr rfl⟩
  · exact .inr hfixed

lemma isDigit_lastWord_numbered (base : String) (n : Nat) :
    (lastWord (Allocator.numbered base n).toList).all Char.isDigit = true := by
  rw [lastWord_numbered, List.all_eq_true]
  intro c hc
  exact Nat.isDigit_of_mem_toDigits (by decide) (by decide) hc

lemma numbered_not_mem_fixedStems (base : String) (n : Nat) :
    Allocator.numbered base n ∉ fixedStems := by
  intro hmem
  have hwords : ∀ stem ∈ fixedStems, ¬(lastWord stem.toList).all Char.isDigit = true := by decide
  exact hwords _ hmem (isDigit_lastWord_numbered base n)

/-- A reserved stem that does not end with a number is fixed. -/
lemma mem_fixedStems_of_lastWord (hword : ¬(lastWord stem.toList).all Char.isDigit = true)
    (h : stem ∈ reservedStems tables) :
    stem ∈ fixedStems := by
  rcases mem_reservedStems h with ⟨n, rfl | rfl⟩ | hfixed
  · exact absurd (isDigit_lastWord_numbered _ n) hword
  · exact absurd (isDigit_lastWord_numbered _ n) hword
  · exact hfixed

lemma base_of_numbered_mem_reservedStems {base : String} {n : Nat}
    (h : Allocator.numbered base n ∈ reservedStems tables) :
    base = "palette" ∨ base = "avatar_font" := by
  rcases mem_reservedStems h with ⟨m, heq | heq⟩ | hfixed
  · exact .inl (numbered_inj heq).1
  · exact .inr (numbered_inj heq).1
  · exact absurd hfixed (numbered_not_mem_fixedStems base n)

lemma isPlain_of_mem_reservedStems (h : stem ∈ reservedStems tables) : IsPlain stem := by
  have hfixed : ∀ stem ∈ fixedStems, stem.toList.all isPlainChar = true := by decide
  rcases mem_reservedStems h with ⟨n, rfl | rfl⟩ | hmem
  · exact IsPlain.numbered (by decide : "palette".toList.all isPlainChar = true) n
  · exact IsPlain.numbered (by decide : "avatar_font".toList.all isPlainChar = true) n
  · exact hfixed stem hmem

/-- No two files of the generator are called alike. -/
lemma nodup_reservedStems (tables : Tables) : (reservedStems tables).Nodup := by
  have hnumbered : ∀ base count, ((List.range count).map (Allocator.numbered base)).Nodup :=
    fun base count => List.nodup_range.map fun _ _ heq => (numbered_inj heq).2
  rw [reservedStems_eq, List.nodup_append, List.nodup_append]
  refine ⟨hnumbered _ _, ⟨hnumbered _ _, by decide, ?_⟩, ?_⟩
  · intro stem hstem other hother heq
    obtain ⟨n, -, rfl⟩ := List.mem_map.mp hstem
    exact numbered_not_mem_fixedStems _ n (heq ▸ hother)
  · intro stem hstem other hother heq
    obtain ⟨n, -, rfl⟩ := List.mem_map.mp hstem
    rcases List.mem_append.mp hother with havatar | hfixed
    · obtain ⟨m, -, rfl⟩ := List.mem_map.mp havatar
      exact absurd (numbered_inj heq).1 (by decide)
    · exact numbered_not_mem_fixedStems _ n (heq ▸ hfixed)

/-! ## What is never reserved -/

lemma companion_not_mem_reservedStems {suffix : String} (hsuffix : suffix ∈ companionSuffixes)
    (name : String) (tables : Tables) : companion name suffix ∉ reservedStems tables := by
  intro hmem
  have hword : lastWord (companion name suffix).toList = lastWord suffix.toList :=
    lastWord_append name suffix
  have hdigits : ∀ suffix ∈ companionSuffixes,
      ¬(lastWord suffix.toList).all Char.isDigit = true := by decide
  have hwords : ∀ suffix ∈ companionSuffixes, ∀ stem ∈ fixedStems,
      lastWord suffix.toList ≠ lastWord stem.toList := by decide
  have hfixed := mem_fixedStems_of_lastWord (hword ▸ hdigits suffix hsuffix) hmem
  exact hwords suffix hsuffix _ hfixed hword.symm

/-- Of the tables of objects, only those under the symbol of an object itself can have a reserved
name. -/
lemma mem_objectSymbols_of_mem_reservedStems {input : Input} (h : Assembled input.tables)
    (hown : stem ∈ ownStems input) (hreserved : stem ∈ reservedStems tables) :
    stem ∈ objectSymbols input.tables := by
  obtain ⟨symbol, hsymbol, hfamily⟩ := List.mem_flatMap.mp ((ownStems_subperm h).subset hown)
  rcases List.mem_cons.mp hfamily with rfl | hcompanion
  · exact hsymbol
  · obtain ⟨suffix, hsuffix, rfl⟩ := List.mem_map.mp hcompanion
    exact absurd hreserved (companion_not_mem_reservedStems hsuffix symbol tables)

lemma sharedName_not_mem_reservedStems (n : Nat) (tables : Tables) :
    Allocator.sharedName n ∉ reservedStems tables := by
  intro hmem
  have hnumbered : Allocator.numbered "script_custom" n ∈ reservedStems tables := hmem
  exact absurd (base_of_numbered_mem_reservedStems hnumbered) (by decide)

/-! ## Endings -/

/-- Every reserved stem has a file whose ending a table has too. -/
lemma exists_ending_of_mem_reserved {output : String × List Char} (h : output ∈ reserved tables) :
    ∃ ending ∈ ['c', 'h'], ending ∈ output.2 := by
  rcases List.mem_append.mp h with htable | hgame
  · obtain ⟨symbol, -, rfl⟩ := List.mem_map.mp htable
    exact ⟨'c', List.mem_cons_self, List.mem_cons_self⟩
  · have hendings : ∀ output ∈ gameOutputs, 'c' ∈ output.2 ∨ 'h' ∈ output.2 := by decide
    rcases hendings output hgame with hending | hending
    · exact ⟨'c', by simp, hending⟩
    · exact ⟨'h', by simp, hending⟩

lemma nodup_endings_of_mem_reserved {output : String × List Char} (h : output ∈ reserved tables) :
    output.2.Nodup := by
  rcases List.mem_append.mp h with htable | hgame
  · obtain ⟨symbol, -, rfl⟩ := List.mem_map.mp htable
    exact (by decide : ['c', 'h'].Nodup)
  · have hendings : ∀ output ∈ gameOutputs, output.2.Nodup := by decide
    exact hendings output hgame

/-! ## The names of all files -/

lemma outputNames_append (first second : List (String × List Char)) :
    outputNames (first ++ second) = outputNames first ++ outputNames second :=
  List.flatMap_append

lemma names_filesIn (folder : String) (tables : List Table) :
    (tables.flatMap (Table.filesIn folder)).map File.name =
      outputNames ((tables.map fun table => folder ++ table.symbol).map tableOutput) := by
  rw [outputNames, List.map_flatMap, List.flatMap_map, List.flatMap_map]
  rfl

lemma names_files (tables : List Table) :
    (tables.flatMap Table.files).map File.name =
      outputNames ((tables.map (·.symbol)).map tableOutput) := by
  have hnames := names_filesIn "" tables
  simp only [String.empty_append] at hnames
  exact hnames

lemma names_soundFiles (sounds : List AssetData) :
    (soundFiles sounds).map File.name =
      outputNames ((sounds.map fun sound => "sounds/" ++ sound.symbol).map tableOutput) := by
  rw [soundFiles, ← List.flatMap_map, names_filesIn, List.map_map (l := sounds)]
  rfl

/-- Tables that are numbered have the numbers from zero on. -/
lemma symbols_zipIdx {α : Type} {table : α × Nat → Table} {base : String}
    (htable : ∀ pair, (table pair).symbol = Allocator.numbered base pair.2) (items : List α) :
    (items.zipIdx.map table).map (·.symbol) =
      (List.range items.length).map (Allocator.numbered base) := by
  have hnumbers : items.zipIdx.map Prod.snd = List.range items.length := by
    rw [List.zipIdx_map_snd, List.range_eq_range']
  rw [← hnumbers, List.map_map, List.map_map]
  exact List.map_congr_left fun pair _ => htable pair

lemma symbols_paletteTables (sets : List PaletteSet) :
    (sets.zipIdx.map fun (set, i) => paletteTable (paletteSymbol i) set).map (·.symbol) =
      (List.range sets.length).map (Allocator.numbered "palette") :=
  symbols_zipIdx (fun _ => rfl) sets

lemma symbols_avatarTables (avatars : List AssetData) :
    (avatarTables avatars).map (·.symbol) =
      (List.range (avatarTables avatars).length).map (Allocator.numbered "avatar_font") := by
  rw [avatarTables, List.length_map, List.length_zipIdx]
  exact symbols_zipIdx (fun _ => rfl) _

/-- The tables of assets are those of objects and those that the generator names itself. -/
lemma symbols_assetTables (tables : Tables) :
    ((assetTables tables).map (·.symbol)).Perm
      (tables.backgrounds.stems ++ (tables.sprites.stems ++ (tables.tilesets.map (·.symbol) ++
        (tables.fonts.map (·.symbol) ++ (tables.emotes.map (·.symbol) ++
          reservedTables tables))))) := by
  have hsymbols : (assetTables tables).map (·.symbol) =
      tables.backgrounds.tilesets.map (·.symbol) ++ tables.sprites.tilesets.map (·.symbol) ++
        tables.tilesets.map (·.symbol) ++ tables.backgrounds.tilemaps.map (·.symbol) ++
        tables.backgrounds.attributes.map (·.symbol) ++
        tables.backgrounds.entries.map (·.symbol) ++
        (List.range tables.palettes.sets.length).map (Allocator.numbered "palette") ++
        tables.sprites.entries.map (·.symbol) ++ ["spritesheet_none"] ++
        tables.fonts.map (·.symbol) ++
        (List.range (avatarTables tables.avatars).length).map (Allocator.numbered "avatar_font") ++
        tables.emotes.map (·.symbol) ++ ["frame_image", "cursor_image"] := by
    rw [← symbols_paletteTables, ← symbols_avatarTables]
    simp only [assetTables, List.map_append]
    simp only [List.map_map]
    rfl
  rw [hsymbols, List.perm_iff_count]
  intro name
  simp only [Backgrounds.stems, Sprites.stems, reservedTables, List.count_append, List.count_cons,
    List.count_nil]
  omega

/-- The tables are those of objects and those that the generator names itself. -/
lemma symbols_tables (input : Input) :
    ((assetTables input.tables ++ allSceneTables input ++ musicTables input.tables.music).map
      (·.symbol)).Perm (ownStems input ++ reservedTables input.tables) := by
  have hmusic : (musicTables input.tables.music).map (·.symbol) =
      input.tables.music.map (·.symbol) := by
    rw [musicTables, List.map_map]
    rfl
  have hassets := fun name => (symbols_assetTables input.tables).count_eq name
  rw [List.perm_iff_count]
  intro name
  specialize hassets name
  simp only [List.map_append, List.count_append, ownStems, hmusic] at hassets ⊢
  omega

/-- The files of everything that has a symbol of its own, without the scripts. -/
def ownOutputs (input : Input) : List (String × List Char) :=
  (ownStems input ++ input.tables.sounds.map fun sound => "sounds/" ++ sound.symbol).map tableOutput

/-- The files that describe the whole game and come behind the sounds. -/
def endFiles (input : Input) : List File :=
  globalsFiles input.project input.aliases ++
    [sceneTypesFile input.usedTypes input.knownTypes, bootstrapFile input.project input.tables] ++
    engineInitFiles ++ [signatureFile input.project input.aliases]

lemma names_gameFiles (input : Input) :
    (musicFile input.tables.music :: endFiles input).map File.name = outputNames gameOutputs := by
  have hnames : outputNames gameOutputs =
      ["music_data.h", "game_globals.i", "game_globals.h", "scene_types.h", "data_bootstrap.h",
        "script_engine_init.s", "script_engine_init.h", "game_signature.c"] := by decide
  rw [hnames]
  rfl

lemma names_dataFiles (input : Input) :
    ((dataFiles input).map File.name).Perm
      (outputNames (ownOutputs input ++ reserved input.tables)) := by
  have hdata : (dataFiles input).Perm
      ((assetTables input.tables ++ allSceneTables input ++ musicTables input.tables.music).flatMap
          Table.files ++ soundFiles input.tables.sounds ++
        musicFile input.tables.music :: endFiles input) := by
    simp only [dataFiles, endFiles, List.append_assoc]
    exact List.Perm.append_left _ (List.perm_append_comm_assoc [musicFile input.tables.music] _ _)
  refine (hdata.map File.name).trans ?_
  rw [List.map_append, List.map_append, names_files, names_soundFiles, names_gameFiles,
    ← outputNames_append, ← outputNames_append]
  refine List.Perm.flatMap_right _ (List.perm_iff_count.mpr fun output => ?_)
  have hcount := ((symbols_tables input).map tableOutput).count_eq output
  simp only [ownOutputs, reserved, List.map_append, List.count_append] at hcount ⊢
  omega

end Cartridge.Source
