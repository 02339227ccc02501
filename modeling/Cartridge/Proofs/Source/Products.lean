import Mathlib.Data.List.Zip
import Cartridge.Source.Basic

/-!
# Products in the generated sources

Sources hold products of numbers of the project: positions in sixteenths of a pixel, the number of
places of a scene, and the frames that a projectile lives.  They are taken in machine words, and
nothing before keeps their factors small.

`products_dataFiles` lists all of them.  So the sources of a project fit exactly when each of its
factors is small enough (`fits_dataFiles_iff`), and then every source holds the product of the
numbers themselves (`FactorsFit.exactProducts`).
-/

namespace Cartridge.Source

open Cartridge.Json (Fields)
open Cartridge.Script (decimal)
open Cartridge.Tables (SceneEntry)

/-! ## Single products -/

namespace WordProduct

variable {product : WordProduct}

lemma fits_iff : product.fits = true ↔
    product.type.least ≤ product.exact ∧ product.exact < product.type.bound := by
  rw [fits, Bool.and_eq_true, decide_eq_true_iff, decide_eq_true_iff]

lemma number_of_fits (h : product.fits = true) : product.number = product.exact := by
  rw [number, value?, if_pos h, Option.getD_some]

end WordProduct

lemma toInt_clampCoordinate (x : Int32) : (clampCoordinate x).toInt = max 0 x.toInt := by
  rw [clampCoordinate]
  split_ifs with hnegative <;> rw [Int32.lt_iff_toInt_lt, Int32.toInt_zero] at hnegative
  · rw [Int32.toInt_zero]
    omega
  · omega

lemma exact_subpixels (x : Int32) : (subpixels x).exact = max 0 x.toInt * 16 := by
  rw [← toInt_clampCoordinate]
  rfl

lemma fits_subpixels_iff (x : Int32) : (subpixels x).fits = true ↔ x < 134217728 := by
  have hbound : (134217728 : Int32).toInt = 134217728 := by decide
  rw [WordProduct.fits_iff, exact_subpixels, Int32.lt_iff_toInt_lt, hbound]
  change (-2147483648 : Int) ≤ _ ∧ _ < (2147483648 : Int) ↔ _
  omega

lemma exact_placeCount (scene : Project.Scene) :
    (placeCount scene).exact = ((scene.width.toNat * scene.height.toNat : Nat) : Int) :=
  (Int.natCast_mul _ _).symm

lemma fits_placeCount_iff (scene : Project.Scene) :
    (placeCount scene).fits = true ↔ scene.width.toNat * scene.height.toNat < 4294967296 := by
  rw [WordProduct.fits_iff, exact_placeCount]
  change (0 : Int) ≤ _ ∧ _ < (4294967296 : Int) ↔ _
  omega

lemma exact_lifeTime (args : Fields) :
    (lifeTime args).exact = (((wordArg args "lifeTime" 1).toNat * 60 : Nat) : Int) :=
  (Int.natCast_mul _ _).symm

lemma fits_lifeTime_iff (args : Fields) :
    (lifeTime args).fits = true ↔
      (wordArg args "lifeTime" 1).toNat * 60 < 18446744073709551616 := by
  rw [WordProduct.fits_iff, exact_lifeTime]
  change (0 : Int) ≤ _ ∧ _ < (18446744073709551616 : Int) ↔ _
  omega

/-! ## The products of all sources -/

/-- The products in the sources of a scene. -/
def sceneProducts (entry : SceneEntry) : List WordProduct :=
  placeCount entry.scene :: (entry.actors.flatMap fun actor => actorProducts actor.entity) ++
    entry.projectiles.map fun projectile => lifeTime projectile.args

/-- The products in the sources of a project. -/
def projectProducts (project : Project) (tables : Tables) : List WordProduct :=
  tables.scenes.flatMap sceneProducts ++
    [subpixels project.settings.startX, subpixels project.settings.startY]

lemma products_filesIn (folder : String) (table : Table) :
    (table.filesIn folder).flatMap File.products = table.products :=
  List.append_nil _

lemma products_files (tables : List Table) :
    (tables.flatMap Table.files).flatMap File.products = tables.flatMap Table.products := by
  rw [List.flatMap_assoc]
  exact List.flatMap_congr fun table _ => products_filesIn "" table

lemma products_assetTables (tables : Tables) :
    (assetTables tables).flatMap Table.products = [] := by
  simp only [assetTables, List.flatMap_append, List.flatMap_map, avatarTables]
  simp [tilesetTable, bytesTable, backgroundTable, paletteTable, spriteTable, emptySheetTable,
    sheetTable, fontTable]

lemma products_sceneTables (tables : Tables) (types : List String) (entry : SceneEntry)
    (scripts : Compile.SceneScripts) :
    (sceneTables tables types entry scripts).flatMap Table.products = sceneProducts entry := by
  have hactors : (actorsTable? tables entry scripts).toList.flatMap Table.products =
      entry.actors.flatMap fun actor => actorProducts actor.entity := by
    rw [actorsTable?]
    split_ifs with hempty
    · rw [List.isEmpty_iff.mp hempty]
      rfl
    · exact List.append_nil _
  have htriggers : (triggersTable? entry scripts).toList.flatMap Table.products = [] := by
    rw [triggersTable?]
    split_ifs <;> rfl
  have hsprites : (spritesTable? tables entry).toList.flatMap Table.products = [] := by
    simp only [spritesTable?]
    split_ifs <;> rfl
  have hprojectiles : (projectilesTable? tables entry).toList.flatMap Table.products =
      entry.projectiles.map fun projectile => lifeTime projectile.args := by
    rw [projectilesTable?]
    split_ifs with hempty
    · rw [List.isEmpty_iff.mp hempty]
      rfl
    · exact List.append_nil _
  simp only [sceneTables, List.flatMap_append, hactors, htriggers, hsprites, hprojectiles,
    sceneProducts, List.append_nil]
  exact List.append_nil _

/-- All products in the sources of a project, in order. -/
lemma products_dataFiles {input : Input}
    (hlength : input.tables.scenes.length ≤ input.scripts.length) :
    (dataFiles input).flatMap File.products = projectProducts input.project input.tables := by
  have hscenes : (allSceneTables input).flatMap Table.products =
      input.tables.scenes.flatMap sceneProducts := by
    rw [allSceneTables, List.flatMap_assoc]
    conv_rhs => rw [← List.map_fst_zip hlength, List.flatMap_map]
    exact List.flatMap_congr fun pair _ => products_sceneTables _ _ pair.1 pair.2
  have hmusic : (musicTables input.tables.music).flatMap Table.products = [] := by
    simp [musicTables, bytesTable]
  have hsounds : (soundFiles input.tables.sounds).flatMap File.products = [] := by
    simp [soundFiles, List.flatMap_assoc, products_filesIn, bytesTable]
  simp only [dataFiles, List.flatMap_append, products_files, products_assetTables, hscenes, hmusic,
    hsounds]
  simp [projectProducts, musicFile, globalsFiles, sceneTypesFile, bootstrapFile, engineInitFiles,
    scriptFiles, signatureFile]

/-! ## Factors -/

/-- Positions start below `2²⁷` pixels, scenes have less than `2³²` places, and projectiles live
less than `2⁶⁴` frames. -/
structure FactorsFit (project : Project) (tables : Tables) : Prop where
  start : project.settings.startX < 134217728 ∧ project.settings.startY < 134217728
  actors : ∀ entry ∈ tables.scenes, ∀ actor ∈ entry.actors,
    actor.entity.x < 134217728 ∧ actor.entity.y < 134217728
  collisions : ∀ entry ∈ tables.scenes,
    entry.scene.width.toNat * entry.scene.height.toNat < 4294967296
  projectiles : ∀ entry ∈ tables.scenes, ∀ projectile ∈ entry.projectiles,
    (wordArg projectile.args "lifeTime" 1).toNat * 60 < 18446744073709551616

/-- The sources of a project hold the products of the numbers themselves. -/
structure ExactProducts (project : Project) (tables : Tables) : Prop where
  start :
    line ("#define START_SCENE_X " ++ integerText (max 0 project.settings.startX.toInt * 16)) ∈
        (bootstrapFile project tables).lines ∧
      line ("#define START_SCENE_Y " ++ integerText (max 0 project.settings.startY.toInt * 16)) ∈
        (bootstrapFile project tables).lines
  actors : ∀ entry ∈ tables.scenes, ∀ actor ∈ entry.actors, ∀ script update,
    line ("        .x = " ++ integerText (max 0 actor.entity.x.toInt * 16) ++ ",") ∈
        actorLines tables actor.entity script update ∧
      line ("        .y = " ++ integerText (max 0 actor.entity.y.toInt * 16) ++ ",") ∈
        actorLines tables actor.entity script update
  collisions : ∀ entry ∈ tables.scenes,
    (collisionData entry.scene).length = entry.scene.width.toNat * entry.scene.height.toNat
  projectiles : ∀ entry ∈ tables.scenes, ∀ projectile ∈ entry.projectiles,
    line ("        .life_time = " ++
        decimal ((wordArg projectile.args "lifeTime" 1).toNat * 60) ++ ",") ∈
      projectileLines tables projectile

variable {project : Project} {tables : Tables}

lemma factorsFit_iff :
    FactorsFit project tables ↔
      ∀ product ∈ projectProducts project tables, product.fits = true := by
  simp only [projectProducts, sceneProducts, actorProducts, List.forall_mem_append,
    List.forall_mem_flatMap, List.forall_mem_cons, List.forall_mem_map, fits_subpixels_iff,
    fits_placeCount_iff, fits_lifeTime_iff, List.not_mem_nil, false_implies, implies_true, and_true]
  constructor
  · rintro ⟨hstart, hactors, hcollisions, hprojectiles⟩
    exact ⟨fun entry hentry => ⟨⟨hcollisions entry hentry, hactors entry hentry⟩,
      hprojectiles entry hentry⟩, hstart⟩
  · rintro ⟨hscenes, hstart⟩
    exact ⟨hstart, fun entry hentry => (hscenes entry hentry).1.2,
      fun entry hentry => (hscenes entry hentry).1.1, fun entry hentry => (hscenes entry hentry).2⟩

instance : Decidable (FactorsFit project tables) :=
  decidable_of_iff _ factorsFit_iff.symm

/-- The sources of a project fit exactly when its factors are small enough. -/
lemma fits_dataFiles_iff {input : Input}
    (hlength : input.tables.scenes.length ≤ input.scripts.length) :
    (∀ file ∈ dataFiles input, file.fits = true) ↔ FactorsFit input.project input.tables := by
  rw [factorsFit_iff, ← products_dataFiles hlength, List.forall_mem_flatMap]
  simp only [File.fits, List.all_eq_true]

lemma length_collisionData (scene : Project.Scene) :
    (collisionData scene).length = (placeCount scene).number.toNat := by
  rw [collisionData, List.length_append, List.length_take, List.length_replicate]
  omega

/-- Where the factors are small enough, the sources hold the products of the numbers
themselves. -/
lemma FactorsFit.exactProducts (h : FactorsFit project tables) : ExactProducts project tables := by
  have hposition : ∀ x : Int32, x < 134217728 → (subpixels x).number = max 0 x.toInt * 16 := by
    intro x hx
    rw [WordProduct.number_of_fits ((fits_subpixels_iff x).mpr hx), exact_subpixels]
  constructor
  · rw [← hposition _ h.start.1, ← hposition _ h.start.2]
    simp [bootstrapFile]
  · intro entry hentry actor hactor script update
    obtain ⟨hx, hy⟩ := h.actors entry hentry actor hactor
    rw [← hposition _ hx, ← hposition _ hy]
    simp [actorLines]
  · intro entry hentry
    have hfits := (fits_placeCount_iff _).mpr (h.collisions entry hentry)
    rw [length_collisionData, WordProduct.number_of_fits hfits, exact_placeCount, Int.toNat_natCast]
  · intro entry hentry projectile hprojectile
    have hfits := (fits_lifeTime_iff _).mpr (h.projectiles entry hentry projectile hprojectile)
    have hnumber : (lifeTime projectile.args).number.toNat =
        (wordArg projectile.args "lifeTime" 1).toNat * 60 := by
      rw [WordProduct.number_of_fits hfits, exact_lifeTime, Int.toNat_natCast]
    rw [← hnumber]
    simp [projectileLines]

end Cartridge.Source
