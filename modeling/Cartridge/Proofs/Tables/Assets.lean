import Cartridge.Proofs.Tables.Symbols
import Cartridge.Proofs.Usage.Mentions

/-!
# Used assets are in the tables

An asset that something mentions is used, what is used gets a symbol, and what has a symbol is
encoded under the same id.  So a mentioned asset of the project has an entry in the tables
(`mem_assetSymbols_of_mentions`), and looking up its id finds the symbol of such an entry
(`symbolFor?_of_mem`).

This is about the seven classes of assets that are known by an id of their own.  Pieces of music
are not among them: several may share one entry.
-/

namespace Cartridge

open Cartridge.Project

/-- The ids of the assets of a class. -/
def Project.assetIds (project : Project) : Reference → List String
  | .background => project.backgrounds.map (·.id)
  | .sprite => project.sprites.map (·.id)
  | .tileset => project.tilesets.map (·.id)
  | .font => project.fonts.map (·.id)
  | .avatar => project.avatars.map (·.id)
  | .emote => project.emotes.map (·.id)
  | .sound => project.sounds.map (·.id)
  | .music => []
  | .scene => []
  | .variable => []

/-- The ids of the used assets of a class. -/
def Usage.assetIds (usage : Usage) : Reference → List String
  | .background => (Tables.assetsOf usage.backgrounds).map (·.id)
  | .sprite => (Tables.assetsOf usage.sprites).map (·.id)
  | .tileset => (Tables.assetsOf usage.tilesets).map (·.id)
  | .font => (Tables.assetsOf usage.fonts).map (·.id)
  | .avatar => (Tables.assetsOf usage.avatars).map (·.id)
  | .emote => (Tables.assetsOf usage.emotes).map (·.id)
  | .sound => (Tables.assetsOf usage.sounds).map (·.id)
  | .music => []
  | .scene => []
  | .variable => []

namespace Tables

/-- The ids and symbols of the assets of a class in the tables. -/
def assetSymbols (tables : Tables) : Reference → List (String × String)
  | .background => tables.backgrounds.entries.map BackgroundEntry.reference
  | .sprite => tables.sprites.entries.map SpriteEntry.reference
  | .tileset => tables.tilesets.map AssetData.reference
  | .font => tables.fonts.map AssetData.reference
  | .avatar => tables.avatars.map AssetData.reference
  | .emote => tables.emotes.map AssetData.reference
  | .sound => tables.sounds.map AssetData.reference
  | .music => []
  | .scene => []
  | .variable => []

/-! ## Mentioned assets are used -/

/-- Something mentions an id as one of a class. -/
def Mentions (mentions : List Mention) (kind : Reference) (id : String) : Prop :=
  ∃ who, ⟨kind, id, who⟩ ∈ mentions

variable {id : String} {mentions : List Mention} {kind : Reference} {project : Project}

lemma Mentions.referrers_ne_nil (h : Mentions mentions kind id) :
    Mention.referrers mentions kind id ≠ [] := by
  obtain ⟨who, hmention⟩ := h
  exact List.ne_nil_of_mem (Mention.mem_referrers_iff.mpr hmention)

lemma Mentions.mem_pickUsed {α : Type} {idOf : α → String} {assets : List α}
    (h : Mentions mentions kind id) (hid : id ∈ assets.map idOf) :
    id ∈ (assetsOf (pickUsed mentions kind idOf assets)).map idOf := by
  obtain ⟨asset, hasset, rfl⟩ := List.mem_map.mp hid
  obtain ⟨name, names, hnames⟩ := List.exists_cons_of_ne_nil h.referrers_ne_nil
  have hused : (⟨asset, name :: names⟩ : Used α) ∈ pickUsed mentions kind idOf assets :=
    List.mem_filterMap.mpr ⟨asset, hasset, by rw [hnames]⟩
  exact List.mem_map.mpr ⟨asset, List.mem_map.mpr ⟨_, hused, rfl⟩, rfl⟩

/-- Where a font is mentioned, no other font is put in its place. -/
lemma Mentions.mem_usedFonts (h : Mentions mentions .font id) (hid : id ∈ project.fonts.map (·.id))
    :
    id ∈ (assetsOf (Usage.usedFonts project mentions)).map (·.id) := by
  have hpicked := h.mem_pickUsed hid
  rw [Usage.usedFonts]
  split
  · rename_i hnone
    rw [hnone] at hpicked
    exact absurd hpicked List.not_mem_nil
  · exact hpicked

lemma Mentions.mem_usage {schema : Schema} (h : Mentions (Mention.ofProject project schema) kind id)
    (hid : id ∈ project.assetIds kind) :
    id ∈ (Usage.ofProject project schema).assetIds kind := by
  rw [Usage.ofProject]
  generalize Mention.ofProject project schema = mentions at h ⊢
  cases kind with
  | background => exact h.mem_pickUsed hid
  | sprite => exact h.mem_pickUsed hid
  | tileset => exact h.mem_pickUsed hid
  | font => exact h.mem_usedFonts hid
  | avatar => exact h.mem_pickUsed hid
  | emote => exact h.mem_pickUsed hid
  | sound => exact h.mem_pickUsed hid
  | _ => exact absurd hid List.not_mem_nil

/-! ## Used assets are in the tables -/

/-- A background is built at least once. -/
lemma exists_variant (project : Project) (background : Background) :
    ∃ common, (background, common) ∈ variantsOf project background := by
  rw [variantsOf]
  cases commonTilesets project background.id with
  | nil => exact ⟨none, List.mem_cons_self⟩
  | cons tileset rest => exact ⟨some tileset, List.mem_cons_self⟩

lemma mem_planBackgrounds {used : List Background} (h : id ∈ used.map (·.id)) (a : Symbol.Allocator)
    :
    id ∈ (planBackgrounds project used a).1.map fun job => job.background.id := by
  obtain ⟨background, hbackground, rfl⟩ := List.mem_map.mp h
  obtain ⟨common, hcommon⟩ := exists_variant project background
  have hjobs : background ∈ (planBackgrounds project used a).1.map (·.background) := by
    rw [map_background_planBackgrounds]
    exact List.mem_map.mpr ⟨_, List.mem_flatMap.mpr ⟨background, hbackground, hcommon⟩, rfl⟩
  obtain ⟨job, hjob, rfl⟩ := List.mem_map.mp hjobs
  exact List.mem_map.mpr ⟨job, hjob, rfl⟩

/-- The ids of a class of assets are those of what was named. -/
lemma mem_fst_of_reference {α β : Type} (idOf : β → String) {entries : List α}
    {named : List (β × String)} {reference : α → String × String}
    (href : entries.map reference = named.map fun entry => (idOf entry.1, entry.2))
    (h : id ∈ (named.map Prod.fst).map idOf) : id ∈ (entries.map reference).map Prod.fst := by
  rw [href, List.map_map]
  rwa [List.map_map] at h

section

variable {input : Input} {tree : Files.FileTree} {a a' : Symbol.Allocator} {tables : Tables}

lemma mem_assetSymbols_of_usage (h : (build input tree a).result = .ok (tables, a'))
    {kind : Reference} {id : String}
    (hid : id ∈ (Usage.ofProject input.project input.schema).assetIds kind) :
    id ∈ (tables.assetSymbols kind).map Prod.fst := by
  obtain ⟨_, _, _, _, encoded, -, hencoded, -, -, htables⟩ := build_eq_ok h
  have hcarries := carries_encodeAll hencoded
  cases kind with
  | background =>
    rw [assetSymbols, htables, hcarries.backgrounds, List.map_map]
    exact mem_planBackgrounds hid a
  | sprite =>
    rw [assetSymbols, htables]
    refine mem_fst_of_reference (fun sheet : SpriteSheet => sheet.id) hcarries.sprites ?_
    rwa [nameAll, map_fst_planSprites]
  | tileset =>
    rw [assetSymbols, htables]
    refine mem_fst_of_reference Asset.id hcarries.tilesets ?_
    rwa [nameAll, map_fst_nameAssets]
  | font =>
    rw [assetSymbols, htables]
    refine mem_fst_of_reference Asset.id hcarries.fonts ?_
    rwa [nameAll, map_fst_nameAssets]
  | avatar =>
    rw [assetSymbols, htables]
    refine mem_fst_of_reference Asset.id hcarries.avatars ?_
    rwa [nameAll, map_fst_nameAssets]
  | emote =>
    rw [assetSymbols, htables]
    refine mem_fst_of_reference Asset.id hcarries.emotes ?_
    rwa [nameAll, map_fst_nameAssets]
  | sound =>
    rw [assetSymbols, htables]
    refine mem_fst_of_reference Asset.id hcarries.sounds ?_
    rw [nameAll, map_fst_nameAssets, List.map_map]
    exact hid
  | _ => exact absurd hid List.not_mem_nil

lemma mem_assetSymbols_of_mentions (h : (build input tree a).result = .ok (tables, a'))
    {kind : Reference} {id : String}
    (hmentions : Mentions (Mention.ofProject input.project input.schema) kind id)
    (hid : id ∈ input.project.assetIds kind) : id ∈ (tables.assetSymbols kind).map Prod.fst :=
  mem_assetSymbols_of_usage h (hmentions.mem_usage hid)

end

/-! ## Looking up ids -/

lemma exists_find?_of_mem {α : Type} {entries : List α} {reference : α → String × String}
    {id : String} (h : id ∈ (entries.map reference).map Prod.fst) :
    ∃ symbol,
      (entries.find? fun entry => (reference entry).1 == id).map
        (fun entry => (reference entry).2) = some symbol ∧
      (id, symbol) ∈ entries.map reference := by
  rw [List.map_map] at h
  obtain ⟨entry, hentry, heq⟩ := List.mem_map.mp h
  cases hfound : entries.find? fun entry => (reference entry).1 == id with
  | none => exact absurd (beq_iff_eq.mpr heq) (List.find?_eq_none.mp hfound entry hentry)
  | some first =>
    have hid : (reference first).1 = id := by simpa using List.find?_some hfound
    refine ⟨_, rfl, List.mem_map.mpr ⟨first, List.mem_of_find?_eq_some hfound, ?_⟩⟩
    rw [← hid]

/-- An id in the tables is found, with the symbol of an entry that has it. -/
lemma symbolFor?_of_mem {tables : Tables} {kind : Reference} {id : String}
    (h : id ∈ (tables.assetSymbols kind).map Prod.fst) :
    ∃ symbol, tables.symbolFor? kind id = some symbol ∧
      (id, symbol) ∈ tables.assetSymbols kind := by
  cases kind with
  | background => exact exists_find?_of_mem h
  | sprite => exact exists_find?_of_mem h
  | tileset => exact exists_find?_of_mem h
  | font => exact exists_find?_of_mem h
  | avatar => exact exists_find?_of_mem h
  | emote => exact exists_find?_of_mem h
  | sound => exact exists_find?_of_mem h
  | _ => exact absurd h List.not_mem_nil

end Tables

end Cartridge
