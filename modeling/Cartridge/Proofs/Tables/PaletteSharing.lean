import Cartridge.Proofs.Tables.ScenePalettes
import Cartridge.Source.Basic

/-!
# Palette sets are shared exactly where they are equal

The sets of all backgrounds and then those of all sprites go through one store, which keeps a set
unless it has the key of one that is there.  The keys in the store are all different, so the sets
are too (`nodup_internSets`).  A scene finds under its place a set with the key of its own, and
without a collision of the digest that is its own set (`exists_place`).

So scenes have the same place exactly when they ask for the same set.  A set for backgrounds and one
for sprites have different rows of shades and never the same place.  Where several scenes have one
id, the last of them counts.
-/

namespace Cartridge.Tables

open Cartridge.Digest (Key CollisionFree keyStream)
open Cartridge.Project
open Cartridge.Source (assetTables paletteTable)

/-! ## What a set is written with -/

/-- What a set is written with: its rows of shades and its colours. -/
def PaletteSet.content (set : PaletteSet) : List (List Gray) × Option (List Shades) :=
  (set.layer.rows, set.colors)

lemma PaletteSet.content_injective : Function.Injective PaletteSet.content := by
  rintro ⟨layer, colors⟩ ⟨layer', colors'⟩ h
  obtain ⟨hrows, hcolors⟩ := Prod.mk.inj h
  have hlayer : layer = layer' := Layer.eq_of_countCall_eq
    (congrArg (fun rows : List (List Gray) => Digest.countCall rows.length) hrows)
  rw [hlayer, show colors = colors' from hcolors]

/-! ## The store -/

variable {stored : List (Key × PaletteSet)}

lemma nodup_keys_internSet (h : (stored.map Prod.fst).Nodup) (set : PaletteSet) :
    ((internSet stored set).2.map Prod.fst).Nodup := by
  rw [internSet]
  split
  · exact h
  · rename_i hnone
    rw [List.map_append]
    refine h.append (List.nodup_singleton _) ?_
    intro key hkey hnew
    obtain ⟨entry, hentry, rfl⟩ := List.mem_map.mp hkey
    have hne := List.findIdx?_eq_none_iff.mp hnone entry hentry
    rw [beq_eq_false_iff_ne] at hne
    exact hne (List.mem_singleton.mp hnew)

lemma nodup_keys_internSets (h : (stored.map Prod.fst).Nodup) (sets : List PaletteSet) :
    ((internSets stored sets).2.map Prod.fst).Nodup := by
  induction sets generalizing stored with
  | nil => exact h
  | cons set rest ih => exact ih (nodup_keys_internSet h set)

lemma internSets_append (stored : List (Key × PaletteSet)) (sets others : List PaletteSet) :
    internSets stored (sets ++ others) =
      ((internSets stored sets).1 ++ (internSets (internSets stored sets).2 others).1,
        (internSets (internSets stored sets).2 others).2) := by
  induction sets generalizing stored with
  | nil => rfl
  | cons set rest ih => simp only [List.cons_append, internSets, ih]

lemma of_mem_internSets {sets : List PaletteSet} {entry : Key × PaletteSet}
    (h : entry ∈ (internSets [] sets).2) : entry.2 ∈ sets ∧ entry.1 = entry.2.key :=
  ((interned_internSets [] sets).source entry h).resolve_left List.not_mem_nil

/-- No set is kept twice. -/
lemma nodup_internSets (sets : List PaletteSet) : ((internSets [] sets).2.map Prod.snd).Nodup := by
  refine List.Nodup.of_map PaletteSet.key ?_
  have hkeys : ((internSets [] sets).2.map Prod.snd).map PaletteSet.key =
      (internSets [] sets).2.map Prod.fst := by
    rw [List.map_map]
    exact List.map_congr_left fun entry hentry => (of_mem_internSets hentry).2.symm
  have hnil : (([] : List (Key × PaletteSet)).map Prod.fst).Nodup := List.nodup_nil
  rw [hkeys]
  exact nodup_keys_internSets hnil sets

/-! ## Places of scenes -/

/-- The scene is the last one with its id. -/
def IsLastOf (scenes : List Scene) (scene : Scene) : Prop :=
  ∃ front back, scenes = front ++ scene :: back ∧ ∀ other ∈ back, other.id ≠ scene.id

lemma IsLastOf.mem {scenes : List Scene} {scene : Scene} (h : IsLastOf scenes scene) :
    scene ∈ scenes := by
  obtain ⟨front, back, rfl, -⟩ := h
  exact List.mem_append_right _ List.mem_cons_self

lemma lastOf?_append_cons {α : Type} (front : List (String × α)) (name : String) (value : α)
    {back : List (String × α)} (h : ∀ entry ∈ back, entry.1 ≠ name) :
    lastOf? (front ++ (name, value) :: back) name = some value := by
  have hback : back.reverse.find? (fun entry => entry.1 == name) = none := by
    rw [List.find?_eq_none]
    intro entry hentry
    rw [beq_iff_eq]
    exact h entry (List.mem_reverse.mp hentry)
  rw [lastOf?, List.reverse_append, List.reverse_cons, List.append_assoc, List.find?_append, hback,
    Option.none_or, List.singleton_append, List.find?_cons_of_pos (by simp), Option.map_some]

/-- The last scene with an id finds its set under its place, if none of another scene has the same
key. -/
lemma exists_place {scenes : List Scene} {setOf : Scene → PaletteSet}
    {final : List (Key × PaletteSet)} {result : List Nat × List (Key × PaletteSet)}
    (h : Interned stored (scenes.map setOf) result) (hfinal : result.2 <+: final) {scene : Scene}
    (hkey : ∀ entry ∈ final, entry.1 = (setOf scene).key → entry.2 = setOf scene)
    (hlast : IsLastOf scenes scene) :
    ∃ place, lastOf? ((scenes.map (·.id)).zip result.1) scene.id = some place ∧
      (final.map Prod.snd)[place]? = some (setOf scene) := by
  obtain ⟨front, back, rfl, hback⟩ := hlast
  have hplaces := List.forall₂_drop front.length h.places
  rw [← List.map_drop, List.drop_left, List.map_cons] at hplaces
  obtain ⟨place, behind, ⟨held, hheld⟩, -, hdrop⟩ := List.forall₂_cons_left_iff.mp hplaces
  refine ⟨place, ?_, ?_⟩
  · have hlength : (front.map (·.id)).length = (result.1.take front.length).length := by
      have hall := h.places.length_eq
      rw [List.length_map, List.length_append] at hall
      rw [List.length_map, List.length_take]
      omega
    rw [← List.take_append_drop front.length result.1, hdrop, List.map_append, List.map_cons,
      List.zip_append hlength, List.zip_cons_cons]
    refine lastOf?_append_cons _ _ _ fun entry hentry => ?_
    obtain ⟨other, hother, hid⟩ := List.mem_map.mp (List.of_mem_zip hentry).1
    exact hid ▸ hback other hother
  · have hentry := getElem?_of_isPrefix hfinal hheld
    rw [List.getElem?_map, hentry, Option.map_some,
      hkey _ (List.mem_of_getElem? hentry) rfl]

/-! ## The sets of a project -/

/-- The sets that the scenes of a project ask for, in the order in which they are stored. -/
def computedSets (project : Project) (table : Backgrounds) : List PaletteSet :=
  project.scenes.map (backgroundSet project table) ++ project.scenes.map (spriteSet project)

/-- A message whose digest is the key of a set that a scene asks for. -/
def IsComputedMessage (project : Project) (table : Backgrounds) (message : List UInt8) : Prop :=
  ∃ set ∈ computedSets project table, message = keyStream "palette-set" set.calls

/-- A scene has a place, and the set is held there. -/
def HoldsAt (palettes : Palettes) (places : List (String × Nat)) (scene : Scene)
    (set : PaletteSet) (place : Nat) : Prop :=
  lastOf? places scene.id = some place ∧ palettes.sets[place]? = some set

section

variable {project : Project} {table : Backgrounds}

lemma stored_computedSets : (internSets [] (computedSets project table)).2 =
    (internSets (internSets [] (project.scenes.map (backgroundSet project table))).2
      (project.scenes.map (spriteSet project))).2 := by
  simp only [computedSets, internSets_append]

lemma sets_buildPalettes : (buildPalettes project table).sets =
    (internSets [] (computedSets project table)).2.map Prod.snd := by
  simp only [stored_computedSets]
  rfl

lemma nodup_sets_buildPalettes : (buildPalettes project table).sets.Nodup := by
  rw [sets_buildPalettes]
  exact nodup_internSets _

variable {set : PaletteSet} {scene : Scene}

lemma eq_of_key_eq (hdigest : CollisionFree (IsComputedMessage project table))
    (hset : set ∈ computedSets project table) :
    ∀ entry ∈ (internSets [] (computedSets project table)).2, entry.1 = set.key →
      entry.2 = set := by
  intro entry hentry hkey
  obtain ⟨hmem, hown⟩ := of_mem_internSets hentry
  exact PaletteSet.key_inj hdigest ⟨entry.2, hmem, rfl⟩ ⟨set, hset, rfl⟩ (hown.symm.trans hkey)

lemma exists_background_place (hdigest : CollisionFree (IsComputedMessage project table))
    (hlast : IsLastOf project.scenes scene) :
    ∃ place, HoldsAt (buildPalettes project table) (buildPalettes project table).sceneBackground
      scene (backgroundSet project table scene) place := by
  have hset : backgroundSet project table scene ∈ computedSets project table :=
    List.mem_append_left _ (List.mem_map_of_mem hlast.mem)
  have hgrows : (internSets [] (project.scenes.map (backgroundSet project table))).2 <+:
      (internSets [] (computedSets project table)).2 := by
    simp only [stored_computedSets]
    exact (interned_internSets _ _).grows
  rw [sceneBackground_buildPalettes]
  simp only [HoldsAt, sets_buildPalettes]
  exact exists_place (interned_internSets [] _) hgrows (eq_of_key_eq hdigest hset) hlast

lemma exists_sprite_place (hdigest : CollisionFree (IsComputedMessage project table))
    (hlast : IsLastOf project.scenes scene) :
    ∃ place, HoldsAt (buildPalettes project table) (buildPalettes project table).sceneSprites
      scene (spriteSet project scene) place := by
  have hset : spriteSet project scene ∈ computedSets project table :=
    List.mem_append_right _ (List.mem_map_of_mem hlast.mem)
  simp only [HoldsAt, sets_buildPalettes]
  exact exists_place (interned_internSets _ _) (stored_computedSets ▸ List.prefix_rfl)
    (eq_of_key_eq hdigest hset) hlast

/-- Places are the same exactly when the sets there are. -/
lemma HoldsAt.lastOf?_eq_iff {places others : List (String × Nat)} {other : Scene}
    {otherSet : PaletteSet} {place otherPlace : Nat}
    (h : HoldsAt (buildPalettes project table) places scene set place)
    (h' : HoldsAt (buildPalettes project table) others other otherSet otherPlace) :
    lastOf? places scene.id = lastOf? others other.id ↔ set = otherSet := by
  rw [h.1, h'.1, Option.some_inj]
  constructor
  · rintro rfl
    exact Option.some_inj.mp (h.2.symm.trans h'.2)
  · rintro rfl
    exact (List.getElem?_inj (List.getElem?_eq_some_iff.mp h.2).1 nodup_sets_buildPalettes).mp
      (h.2.trans h'.2.symm)

/-- The colours of a set are those of eight palettes. -/
lemma length_colors_of_mem (h : set ∈ (buildPalettes project table).sets) :
    ∀ colors ∈ set.colors, colors.length = paletteSlots := by
  rw [sets_buildPalettes] at h
  obtain ⟨entry, hentry, rfl⟩ := List.mem_map.mp h
  intro colors hcolors
  rcases List.mem_append.mp (of_mem_internSets hentry).1 with hmem | hmem <;>
    obtain ⟨scene, -, heq⟩ := List.mem_map.mp hmem <;>
    rw [← heq, Option.mem_def] at hcolors
  · rw [backgroundSet] at hcolors
    split_ifs at hcolors
    cases hcolors
    simp [backgroundColors]
  · rw [spriteSet] at hcolors
    split_ifs at hcolors
    cases hcolors
    simp [spriteColors]

/-- The sets are written to tables that are numbered from zero on. -/
lemma paletteTable_mem_assetTables {tables : Tables} {place : Nat}
    (h : tables.palettes.sets[place]? = some set) :
    paletteTable ("palette_" ++ toString place) set ∈ assetTables tables := by
  have hmem : (set, place) ∈ tables.palettes.sets.zipIdx := List.mk_mem_zipIdx_iff_getElem?.mpr h
  have htable := List.mem_map_of_mem (f := fun pair : PaletteSet × Nat =>
    paletteTable (paletteSymbol pair.2) pair.1) hmem
  simp only [assetTables, List.mem_append]
  exact .inl (.inl (.inl (.inl (.inl (.inl (.inr htable))))))

end

/-- Without a collision of the digest, the sets of a project are all different, with eight palettes
each where there are colours, and the one at a place is written under the number of the place.  Each
scene that is the last with its id finds under its two places the sets it asks for.  So two such
scenes have a place in common exactly when they ask for the same set there, and a background never
has the place of sprites. -/
theorem palette_sets_shared_exactly (project : Project) (table : Backgrounds)
    (hdigest : CollisionFree (IsComputedMessage project table)) :
    ((buildPalettes project table).sets.map PaletteSet.content).Nodup ∧
    (∀ set ∈ (buildPalettes project table).sets, ∀ colors ∈ set.colors, colors.length = 8) ∧
    (∀ tables : Tables, tables.palettes = buildPalettes project table → ∀ (place : Nat) set,
      tables.palettes.sets[place]? = some set →
        paletteTable ("palette_" ++ toString place) set ∈ assetTables tables) ∧
    (∀ scene, IsLastOf project.scenes scene →
      (∃ place, HoldsAt (buildPalettes project table) (buildPalettes project table).sceneBackground
        scene (backgroundSet project table scene) place) ∧
      ∃ place, HoldsAt (buildPalettes project table) (buildPalettes project table).sceneSprites
        scene (spriteSet project scene) place) ∧
    ∀ scene other, IsLastOf project.scenes scene → IsLastOf project.scenes other →
      (lastOf? (buildPalettes project table).sceneBackground scene.id =
          lastOf? (buildPalettes project table).sceneBackground other.id ↔
        backgroundSet project table scene = backgroundSet project table other) ∧
      (lastOf? (buildPalettes project table).sceneSprites scene.id =
          lastOf? (buildPalettes project table).sceneSprites other.id ↔
        spriteSet project scene = spriteSet project other) ∧
      lastOf? (buildPalettes project table).sceneBackground scene.id ≠
        lastOf? (buildPalettes project table).sceneSprites other.id := by
  refine ⟨nodup_sets_buildPalettes.map PaletteSet.content_injective, ?_, ?_, ?_, ?_⟩
  · exact fun set hset => length_colors_of_mem hset
  · exact fun tables _ place set hset => paletteTable_mem_assetTables hset
  · exact fun scene hlast => ⟨exists_background_place hdigest hlast,
      exists_sprite_place hdigest hlast⟩
  · intro scene other hlast hother
    obtain ⟨_, hbackground⟩ := exists_background_place hdigest hlast
    obtain ⟨_, hbackground'⟩ := exists_background_place hdigest hother
    obtain ⟨_, hsprites⟩ := exists_sprite_place hdigest hlast
    obtain ⟨_, hsprites'⟩ := exists_sprite_place hdigest hother
    refine ⟨hbackground.lastOf?_eq_iff hbackground', hsprites.lastOf?_eq_iff hsprites', ?_⟩
    intro hsame
    have hset := (hbackground.lastOf?_eq_iff hsprites').mp hsame
    cases congrArg PaletteSet.layer hset

/-! ## A project with colours -/

/-- Scenes with colours, one of them under the id of an earlier one that has other palettes. -/
def colorProject : Project where
  settings := { colorMode := .mixed }
  palettes :=
    [{ id := "fire", colors := ⟨"F8E8C0", "F0A050", "A03820", "301010"⟩ },
      { id := "ice", colors := ⟨"E0F8F8", "80C0E0", "3060A0", "101830"⟩ }]
  scenes :=
    [{ id := "attic", paletteIds := ["ice"] }, { id := "forge", paletteIds := ["fire"] },
      { id := "cave", paletteIds := ["ice"] }, { id := "attic", paletteIds := ["fire"] }]

/-- Two sets for backgrounds, and one for the sprites of all scenes. -/
def colorSets : List PaletteSet :=
  [backgroundSet colorProject {} { id := "forge", paletteIds := ["fire"] },
    backgroundSet colorProject {} { id := "cave", paletteIds := ["ice"] },
    spriteSet colorProject { id := "forge" }]

lemma collisionFree_color : CollisionFree (IsComputedMessage colorProject {}) := by
  have hsets : ∀ set ∈ computedSets colorProject {}, set ∈ colorSets := by decide
  have hmem : ∀ message, IsComputedMessage colorProject {} message →
      message ∈ colorSets.map fun set => keyStream "palette-set" set.calls := by
    rintro message ⟨set, hset, rfl⟩
    exact List.mem_map_of_mem (hsets set hset)
  exact .of_list hmem (by decide +kernel) (by decide +kernel)

/-- Scenes with the same palettes share the place of a set, those with different palettes do not,
and sprites never share with a background. -/
theorem palette_sets_shared_exactly_colors :
    let palettes := buildPalettes colorProject {}
    CollisionFree (IsComputedMessage colorProject {}) ∧
      (palettes.sets.map PaletteSet.content).Nodup ∧
      lastOf? palettes.sceneBackground "forge" = lastOf? palettes.sceneBackground "attic" ∧
      lastOf? palettes.sceneBackground "forge" ≠ lastOf? palettes.sceneBackground "cave" ∧
      lastOf? palettes.sceneSprites "forge" = lastOf? palettes.sceneSprites "cave" ∧
      lastOf? palettes.sceneBackground "forge" ≠ lastOf? palettes.sceneSprites "cave" := by
  obtain ⟨hnodup, -, -, -, hplaces⟩ :=
    palette_sets_shared_exactly colorProject {} collisionFree_color
  have hforge : IsLastOf colorProject.scenes { id := "forge", paletteIds := ["fire"] } :=
    ⟨colorProject.scenes.take 1, colorProject.scenes.drop 2, rfl, by decide⟩
  have hcave : IsLastOf colorProject.scenes { id := "cave", paletteIds := ["ice"] } :=
    ⟨colorProject.scenes.take 2, colorProject.scenes.drop 3, rfl, by decide⟩
  have hattic : IsLastOf colorProject.scenes { id := "attic", paletteIds := ["fire"] } :=
    ⟨colorProject.scenes.take 3, [], rfl, by decide⟩
  obtain ⟨hcolors, hsprites, hapart⟩ := hplaces _ _ hforge hcave
  refine ⟨collisionFree_color, hnodup, (hplaces _ _ hforge hattic).1.mpr rfl, ?_,
    hsprites.mpr rfl, hapart⟩
  intro hsame
  exact absurd (hcolors.mp hsame) (by decide)

end Cartridge.Tables
