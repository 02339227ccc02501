import Cartridge.Proofs.Tables.Symbols
import Cartridge.Proofs.Usage.Exactness

/-!
# The variants of a background

A background is built once for each tileset of the project that a scene combines it with, in the
order in which the scenes come by them, or once alone.  The table has an entry for each of these
variants, in order, and the entry holds what the encoder made of the background together with the
tileset (`forall₂_builtFrom`).

So the table can be read in terms of the project: every entry is a variant of a background of the
project (`Presents.exists_variant`), every variant of a used background has an entry
(`Presents.exists_entry`), and the first entry of a background is the one for the tileset that a
scene asks for first (`Presents.commonTilesetId_of_find?`).
-/

namespace Cartridge.Tables

open Cartridge.Project
open Cartridge.Symbol (Allocator)
open Cartridge.Tile (Encoder EncodedBackground)

/-! ## Distinct items -/

section

variable {α κ : Type} [BEq κ] {key : α → κ}

lemma sublist_distinctFrom (seen : List κ) (items : List α) :
    (distinctFrom key seen items).Sublist items := by
  induction items generalizing seen with
  | nil => exact .slnil
  | cons item rest ih =>
    rw [distinctFrom]
    split_ifs
    · exact (ih seen).cons item
    · exact (ih _).cons_cons item

variable [LawfulBEq κ]

/-- An item at the end is kept only if its key is new. -/
lemma distinctFrom_concat (seen : List κ) (items : List α) (a : α) :
    distinctFrom key seen (items ++ [a]) = distinctFrom key seen items ++
      if (seen ++ items.map key).contains (key a) then [] else [a] := by
  induction items generalizing seen with
  | nil =>
    rw [List.nil_append, List.map_nil, List.append_nil, distinctFrom, distinctFrom]
    split_ifs <;> rfl
  | cons item rest ih =>
    rw [List.cons_append, distinctFrom, distinctFrom]
    by_cases hseen : seen.contains (key item) = true
    · rw [if_pos hseen, if_pos hseen, ih]
      congr 2
      grind
    · rw [if_neg hseen, if_neg hseen, ih, List.cons_append]
      congr 3
      grind

lemma distinctBy_concat (items : List α) (a : α) :
    distinctBy key (items ++ [a]) = distinctBy key items ++
      if (items.map key).contains (key a) then [] else [a] :=
  distinctFrom_concat [] items a

/-- Every key is kept where it first occurs. -/
lemma map_distinctBy (items : List α) :
    (distinctBy key items).map key = (items.map key).eraseDups := by
  induction items using List.reverseRecOn with
  | nil => rfl
  | append_singleton items a ih =>
    rw [distinctBy_concat, List.map_append, List.map_append, ih, List.map_singleton,
      FirstOccurrence.eraseDups_concat]
    split_ifs <;> simp

/-- The first item is always kept. -/
lemma head?_distinctBy (items : List α) : (distinctBy key items).head? = items.head? := by
  cases items with
  | nil => rfl
  | cons item rest =>
    rw [distinctBy, distinctFrom, if_neg (by simp)]
    rfl

end

/-! ## The tilesets that scenes ask for -/

/-- The tileset of the project that a scene asks for. -/
def sceneTileset? (project : Project) (scene : Scene) : Option Asset :=
  if scene.tilesetId = "" then none
  else project.tilesets.find? fun tileset => tileset.id = scene.tilesetId

/-- The scene asks for a tileset that the project has. -/
def HasTileset (project : Project) (scene : Scene) : Prop :=
  scene.tilesetId ≠ "" ∧ scene.tilesetId ∈ project.tilesets.map (·.id)

instance (project : Project) (scene : Scene) : Decidable (HasTileset project scene) :=
  inferInstanceAs (Decidable (_ ∧ _))

variable {project : Project} {scene : Scene}

lemma isSome_sceneTileset?_iff :
    (sceneTileset? project scene).isSome = true ↔ HasTileset project scene := by
  rw [sceneTileset?, HasTileset]
  split_ifs with hid
  · simp [hid]
  · simp [hid, List.find?_isSome]

lemma of_sceneTileset?_eq_some {tileset : Asset} (h : sceneTileset? project scene = some tileset) :
    tileset ∈ project.tilesets ∧ tileset.id = scene.tilesetId ∧ scene.tilesetId ≠ "" := by
  rw [sceneTileset?] at h
  split_ifs at h with hid
  exact ⟨List.mem_of_find?_eq_some h, by simpa using List.find?_some h, hid⟩

/-- Scenes that ask for tilesets with one id get the same tileset. -/
lemma sceneTileset?_congr {other : Scene} (h : scene.tilesetId = other.tilesetId) :
    sceneTileset? project scene = sceneTileset? project other := by
  rw [sceneTileset?, sceneTileset?, h]

lemma commonTilesets_eq (project : Project) (backgroundId : String) :
    commonTilesets project backgroundId = distinctBy (·.id)
      ((project.scenes.filter (·.backgroundId = backgroundId)).filterMap
        (sceneTileset? project)) := by
  rw [commonTilesets, List.filterMap_filter]
  refine congrArg _ (List.filterMap_congr fun scene _ => ?_)
  rw [sceneTileset?]
  by_cases hbackground : scene.backgroundId = backgroundId <;>
    by_cases htileset : scene.tilesetId = "" <;> simp [hbackground, htileset]

lemma exists_scene_of_mem_commonTilesets {backgroundId : String} {tileset : Asset}
    (h : tileset ∈ commonTilesets project backgroundId) :
    ∃ scene ∈ project.scenes, scene.backgroundId = backgroundId ∧
      sceneTileset? project scene = some tileset := by
  rw [commonTilesets_eq] at h
  obtain ⟨scene, hscene, htileset⟩ := List.mem_filterMap.mp ((sublist_distinctFrom _ _).subset h)
  obtain ⟨hscene, hbackground⟩ := List.mem_filter.mp hscene
  exact ⟨scene, hscene, of_decide_eq_true hbackground, htileset⟩

lemma mem_commonTilesets (hscene : scene ∈ project.scenes) {tileset : Asset}
    (h : sceneTileset? project scene = some tileset) :
    tileset ∈ commonTilesets project scene.backgroundId := by
  have hchosen : tileset ∈ (project.scenes.filter
      (·.backgroundId = scene.backgroundId)).filterMap (sceneTileset? project) :=
    List.mem_filterMap.mpr ⟨scene, List.mem_filter.mpr ⟨hscene, by simp⟩, h⟩
  obtain ⟨kept, hmem, hid⟩ : ∃ kept ∈ commonTilesets project scene.backgroundId,
      kept.id = tileset.id := by
    rw [commonTilesets_eq, ← List.mem_map, map_distinctBy, List.mem_eraseDups]
    exact List.mem_map_of_mem hchosen
  -- the kept one was found by the same id
  obtain ⟨other, -, -, hother⟩ := exists_scene_of_mem_commonTilesets hmem
  have hsame : other.tilesetId = scene.tilesetId := by
    rw [← (of_sceneTileset?_eq_some hother).2.1, hid, (of_sceneTileset?_eq_some h).2.1]
  rw [sceneTileset?_congr hsame, h] at hother
  cases hother
  exact hmem

/-- The first common tileset is the one of the first scene that asks for one. -/
lemma head?_commonTilesets (project : Project) (backgroundId : String) :
    (commonTilesets project backgroundId).head? =
      (project.scenes.find? fun scene =>
        scene.backgroundId = backgroundId ∧ HasTileset project scene).bind
          (sceneTileset? project) := by
  rw [commonTilesets_eq, head?_distinctBy]
  induction project.scenes with
  | nil => rfl
  | cons first rest ih =>
    by_cases hbackground : first.backgroundId = backgroundId
    · rw [List.filter_cons_of_pos (by simpa using hbackground), List.filterMap_cons,
        List.find?_cons]
      cases htileset : sceneTileset? project first with
      | none =>
        have hnone : ¬HasTileset project first := by
          rw [← isSome_sceneTileset?_iff, htileset]
          simp
        simpa [hnone] using ih
      | some tileset =>
        have hsome : HasTileset project first := by
          rw [← isSome_sceneTileset?_iff, htileset]
          rfl
        simp [hbackground, hsome, htileset]
    · rw [List.filter_cons_of_neg (by simpa using hbackground), List.find?_cons]
      simpa [hbackground] using ih

/-! ## Variants -/

lemma mem_variantsOf {background : Background} {variant : Background × Option Asset} :
    variant ∈ variantsOf project background ↔ variant.1 = background ∧
      (variant.2 = none ∧ commonTilesets project background.id = [] ∨
        ∃ tileset ∈ commonTilesets project background.id, variant.2 = some tileset) := by
  obtain ⟨first, common⟩ := variant
  rw [variantsOf]
  split
  · rename_i hnone
    simp [hnone]
  · rename_i hsome
    have hne : commonTilesets project background.id ≠ [] := hsome
    simp only [List.mem_map, Prod.mk.injEq, hne, and_false, false_or]
    constructor
    · rintro ⟨tileset, htileset, rfl, rfl⟩
      exact ⟨rfl, tileset, htileset, rfl⟩
    · rintro ⟨rfl, tileset, htileset, rfl⟩
      exact ⟨tileset, htileset, rfl, rfl⟩

lemma head?_variantsOf (project : Project) (background : Background) :
    (variantsOf project background).head? =
      some (background, (commonTilesets project background.id).head?) := by
  rw [variantsOf]
  cases commonTilesets project background.id <;> rfl

lemma common_of_find?_variants {used : List Background} {id : String}
    {variant : Background × Option Asset}
    (h : (used.flatMap (variantsOf project)).find? (fun v => v.1.id == id) = some variant) :
    variant.2 = (commonTilesets project id).head? := by
  induction used with
  | nil => cases h
  | cons background rest ih =>
    rw [List.flatMap_cons, List.find?_append] at h
    obtain ⟨others, hvariants⟩ := List.head?_eq_some_iff.mp (head?_variantsOf project background)
    by_cases hid : background.id = id
    · rw [hvariants, List.find?_cons_of_pos (by simpa using hid), Option.some_or] at h
      cases h
      rw [hid]
    · have hnone : (variantsOf project background).find? (fun v => v.1.id == id) = none := by
        rw [List.find?_eq_none]
        intro v hv
        rw [(mem_variantsOf.mp hv).1]
        simpa using hid
      rw [hnone, Option.none_or] at h
      exact ih h

/-! ## Entries -/

/-- Data that was stored under a symbol, unless there was nothing to store. -/
def StoredAs (blobs : List Blob) (data : List UInt8) : Option String → Prop
  | none => data = []
  | some symbol => ⟨symbol, data⟩ ∈ blobs

/-- An entry of a table holds what an encoder made of a background. -/
structure BuiltFrom (table : Backgrounds) (job : BackgroundJob) (encoded : EncodedBackground)
    (entry : BackgroundEntry) : Prop where
  id : entry.id = job.background.id
  commonTilesetId : entry.commonTilesetId = job.common.map (·.id)
  width : entry.width = encoded.width
  height : entry.height = encoded.height
  tilemap : StoredAs table.tilemaps encoded.tilemap entry.tilemap
  attributes : StoredAs table.attributes encoded.attributes entry.attributes
  autoPalettes : entry.autoPalettes = encoded.autoPalettes

lemma StoredAs.mono {blobs later : List Blob} {data : List UInt8} {symbol : Option String}
    (h : StoredAs blobs data symbol) (hsubset : blobs ⊆ later) : StoredAs later data symbol := by
  cases symbol with
  | none => exact h
  | some symbol => exact hsubset h

lemma storedAs_blobUnlessEmpty (blobs : List Blob) (symbol : String) (data : List UInt8) :
    StoredAs (blobs ++ (blobUnlessEmpty symbol data).toList) data
      ((blobUnlessEmpty symbol data).map (·.symbol)) := by
  rw [blobUnlessEmpty]
  split_ifs with hempty
  · exact List.isEmpty_iff.mp hempty
  · exact List.mem_append_right _ (List.mem_singleton_self _)

lemma BuiltFrom.mono {table later : Backgrounds} {job : BackgroundJob}
    {encoded : EncodedBackground} {entry : BackgroundEntry} (h : BuiltFrom table job encoded entry)
    (htilemaps : table.tilemaps ⊆ later.tilemaps)
    (hattributes : table.attributes ⊆ later.attributes) :
    BuiltFrom later job encoded entry :=
  { h with
    tilemap := h.tilemap.mono htilemaps
    attributes := h.attributes.mono hattributes }

lemma builtFrom_addBackground (state : Backgrounds × TilesetStore) (job : BackgroundJob)
    (encoded : EncodedBackground) :
    ∃ entry, (addBackground state job encoded).1.entries = state.1.entries ++ [entry] ∧
      BuiltFrom (addBackground state job encoded).1 job encoded entry :=
  ⟨_, rfl, rfl, rfl, rfl, rfl, storedAs_blobUnlessEmpty _ _ _, storedAs_blobUnlessEmpty _ _ _, rfl⟩

/-- Adding backgrounds one by one adds an entry for each of them and loses no data. -/
lemma builtFrom_foldl (pairs : List (BackgroundJob × EncodedBackground))
    (state : Backgrounds × TilesetStore) :
    let final := (pairs.foldl (fun state pair => addBackground state pair.1 pair.2) state).1
    state.1.tilemaps ⊆ final.tilemaps ∧ state.1.attributes ⊆ final.attributes ∧
      ∃ entries, final.entries = state.1.entries ++ entries ∧
        List.Forall₂ (fun pair entry => BuiltFrom final pair.1 pair.2 entry) pairs entries := by
  induction pairs generalizing state with
  | nil => exact ⟨List.Subset.refl _, List.Subset.refl _, [], (List.append_nil _).symm, .nil⟩
  | cons pair rest ih =>
    intro final
    obtain ⟨htilemaps, hattributes, entries, hentries, hbuilt⟩ :=
      ih (addBackground state pair.1 pair.2)
    obtain ⟨entry, hentry, hfirst⟩ := builtFrom_addBackground state pair.1 pair.2
    refine ⟨fun blob hblob => htilemaps (List.mem_append_left _ hblob),
      fun blob hblob => hattributes (List.mem_append_left _ hblob), entry :: entries, ?_,
      .cons (hfirst.mono htilemaps hattributes) hbuilt⟩
    rw [hentry, List.append_assoc] at hentries
    exact hentries

/-- The table has an entry for each job, with what the encoder made of it. -/
lemma forall₂_builtFrom {encoder : Encoder} {mode : ColorMode} {jobs : List BackgroundJob}
    {encoded : List EncodedBackground} (h : encodeBackgrounds encoder mode jobs = .ok encoded) :
    List.Forall₂ (fun job entry => ∃ image,
        encoder.background mode job.background job.common = .ok image ∧
          BuiltFrom (assembleBackgrounds jobs encoded) job image entry)
      jobs (assembleBackgrounds jobs encoded).entries := by
  have hsteps := forall₂_of_mapM_eq_ok h
  obtain ⟨entries, hentries, hbuilt⟩ : ∃ entries,
      (assembleBackgrounds jobs encoded).entries = [] ++ entries ∧
        List.Forall₂ (fun pair : BackgroundJob × EncodedBackground =>
          BuiltFrom (assembleBackgrounds jobs encoded) pair.1 pair.2) (jobs.zip encoded) entries :=
    (builtFrom_foldl (jobs.zip encoded) ({}, {})).2.2
  rw [hentries, List.nil_append]
  generalize assembleBackgrounds jobs encoded = table at hbuilt
  clear hentries h
  induction hsteps generalizing entries with
  | nil =>
    cases hbuilt
    exact .nil
  | cons hstep _ ih =>
    cases hbuilt with
    | cons hfirst hrest => exact .cons ⟨_, hstep, hfirst⟩ (ih _ hrest)

lemma map_planBackgrounds (project : Project) (used : List Background) (a : Allocator) :
    (planBackgrounds project used a).1.map (fun job => (job.background, job.common)) =
      used.flatMap (variantsOf project) := by
  rw [planBackgrounds]
  dsimp only
  rw [List.map_map]
  exact map_fst_zip_allocateAll a (List.length_map _)

/-! ## Searching the table -/

/-- A table has the variants of the backgrounds that a project uses, as an encoder gives them. -/
def Presents (project : Project) (schema : Schema) (encoder : Encoder) (table : Backgrounds) :
    Prop :=
  List.Forall₂ (fun variant entry => ∃ symbol image,
      encoder.background project.settings.colorMode variant.1 variant.2 = .ok image ∧
        BuiltFrom table ⟨variant.1, variant.2, symbol⟩ image entry)
    ((assetsOf (Usage.ofProject project schema).backgrounds).flatMap (variantsOf project))
    table.entries

lemma presents_encodeAll {schema : Schema} {root : Files.FilePath} {encoder : Encoder}
    {frame cursor : Files.FilePath} {a : Allocator} {encoded : Encoded}
    (h : encodeAll project root encoder (nameAll project (Usage.ofProject project schema) a).1
      frame cursor = .ok encoded) : Presents project schema encoder encoded.backgrounds := by
  unfold encodeAll at h
  simp only [bind_eq_ok] at h
  obtain ⟨images, himages, _, -, _, -, _, -, _, -, _, -, _, -, _, -, _, -, _, -, h⟩ := h
  cases h
  rw [Presents, ← map_planBackgrounds, List.forall₂_map_left_iff]
  refine (forall₂_builtFrom himages).imp ?_
  rintro ⟨background, common, symbol⟩ entry ⟨image, himage, hbuilt⟩
  exact ⟨symbol, image, himage, hbuilt⟩

open Classical in
lemma mem_usedBackgrounds {schema : Schema} {background : Background} :
    background ∈ assetsOf (Usage.ofProject project schema).backgrounds ↔
      background ∈ project.backgrounds ∧ background.id ≠ "" ∧
        ∃ who, RefersTo project schema .background background.id who := by
  have hexact : UsedExactly (RefersTo project schema .background) (·.id) project.backgrounds
      (Usage.ofProject project schema).backgrounds :=
    usedExactly_ofProject project schema (by simp) (by simp) _ _
  rw [assetsOf, hexact.assets_eq, List.mem_filter, decide_eq_true_eq]

section

variable {schema : Schema} {encoder : Encoder} {table : Backgrounds}

lemma Presents.exists_variant (h : Presents project schema encoder table) {entry : BackgroundEntry}
    (hentry : entry ∈ table.entries) :
    ∃ background common symbol image, background ∈ project.backgrounds ∧ background.id ≠ "" ∧
      (background, common) ∈ variantsOf project background ∧
      encoder.background project.settings.colorMode background common = .ok image ∧
      BuiltFrom table ⟨background, common, symbol⟩ image entry := by
  obtain ⟨place, hplace, rfl⟩ := List.getElem_of_mem hentry
  have hvariant := List.getElem_mem (h.length_eq ▸ hplace)
  obtain ⟨symbol, image, himage, hbuilt⟩ := h.get (h.length_eq ▸ hplace) hplace
  obtain ⟨background, hused, hmem⟩ := List.mem_flatMap.mp hvariant
  obtain rfl := (mem_variantsOf.mp hmem).1
  obtain ⟨hproject, hid, -⟩ := mem_usedBackgrounds.mp hused
  exact ⟨_, _, symbol, image, hproject, hid, hmem, himage, hbuilt⟩

lemma Presents.exists_entry (h : Presents project schema encoder table) {background : Background}
    (hused : background ∈ assetsOf (Usage.ofProject project schema).backgrounds)
    {common : Option Asset} (hvariant : (background, common) ∈ variantsOf project background) :
    ∃ entry ∈ table.entries, entry.id = background.id ∧
      entry.commonTilesetId = common.map (·.id) := by
  obtain ⟨place, hplace, heq⟩ := List.getElem_of_mem (List.mem_flatMap.mpr ⟨_, hused, hvariant⟩)
  have hlt := h.length_eq ▸ hplace
  obtain ⟨symbol, image, -, hbuilt⟩ := h.get hplace hlt
  refine ⟨table.entries[place], List.getElem_mem hlt, hbuilt.id.trans ?_,
    hbuilt.commonTilesetId.trans ?_⟩
  · exact congrArg (fun v => v.1.id) heq
  · exact congrArg (fun v => v.2.map (·.id)) heq

/-- The first entry of a background is the variant for its first common tileset. -/
lemma Presents.commonTilesetId_of_find? (h : Presents project schema encoder table) {id : String}
    {entry : BackgroundEntry} (hentry : table.entries.find? (fun e => e.id == id) = some entry) :
    entry.commonTilesetId = (commonTilesets project id).head?.map (·.id) := by
  rw [Presents] at h
  generalize hvariants : (assetsOf (Usage.ofProject project schema).backgrounds).flatMap
    (variantsOf project) = variants at h
  have hfind : ∃ variant, variants.find? (fun v => v.1.id == id) = some variant ∧
      entry.commonTilesetId = variant.2.map (·.id) := by
    clear hvariants
    generalize table.entries = entries at h hentry
    induction h with
    | nil => cases hentry
    | @cons variant other variants entries hfirst _ ih =>
      obtain ⟨symbol, image, -, hbuilt⟩ := hfirst
      have hid : other.id = variant.1.id := hbuilt.id
      rw [List.find?_cons] at hentry ⊢
      rw [hid] at hentry
      split at hentry
      · cases hentry
        exact ⟨variant, rfl, hbuilt.commonTilesetId⟩
      · exact ih hentry
  obtain ⟨variant, hfound, heq⟩ := hfind
  rw [← hvariants] at hfound
  rw [heq, common_of_find?_variants hfound]

end

end Cartridge.Tables
