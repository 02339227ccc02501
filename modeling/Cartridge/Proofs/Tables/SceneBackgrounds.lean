import Cartridge.Proofs.Tables.Failures
import Cartridge.Proofs.Tables.Variants

/-!
# The backgrounds of scenes

A scene shows the variant of its background that was built against its tileset.  Where the project
does not have the tileset, the scene shows the first variant and a warning says so; where the
project does not have the background, nothing is built.

The search for the variant is compared with the project: it finds nothing exactly for the scenes
that `LacksBackground` and `LacksTileset` describe (`Presents.placeOf?_eq_none_iff`,
`Presents.findVariant?_eq_none_iff`).  The other stages of a scene always succeed, and none of their
warnings reads like the one about a tileset (`filter_sceneWarnings`), so what is built of the scenes
and which of them are warned about follows from the searches alone
(`result_buildScenes_eq_error_iff`, `buildScenes_of_found`).
-/

namespace Cartridge.Tables

open Cartridge.Compile
open Cartridge.Compile.Outcome (bind_of_result_eq_ok result_bind_eq_error warnings_warnIf)
open Cartridge.Files (FileTree)
open Cartridge.Project
open Cartridge.Symbol (Allocator)
open Cartridge.Tile (Encoder)

/-! ## What a scene may lack -/

/-- The scene has no background, or one that the project does not have. -/
def LacksBackground (project : Project) (scene : Scene) : Prop :=
  scene.backgroundId = "" ∨ scene.backgroundId ∉ project.backgrounds.map (·.id)

/-- The scene asks for a tileset that the project does not have. -/
def LacksTileset (project : Project) (scene : Scene) : Prop :=
  scene.tilesetId ≠ "" ∧ scene.tilesetId ∉ project.tilesets.map (·.id)

instance (project : Project) (scene : Scene) : Decidable (LacksBackground project scene) :=
  inferInstanceAs (Decidable (_ ∨ _))

instance (project : Project) (scene : Scene) : Decidable (LacksTileset project scene) :=
  inferInstanceAs (Decidable (_ ∧ _))

section

variable {project : Project} {schema : Schema} {encoder : Encoder} {table : Backgrounds}
  {scene : Scene}

lemma Presents.find?_eq_none_iff (h : Presents project schema encoder table)
    (hscene : scene ∈ project.scenes) :
    table.find? scene.backgroundId = none ↔ LacksBackground project scene := by
  rw [Backgrounds.find?, List.findIdx?_eq_none_iff]
  constructor
  · intro hnone
    by_contra hhas
    rw [LacksBackground, not_or, not_not] at hhas
    obtain ⟨background, hbackground, hid⟩ := List.mem_map.mp hhas.2
    have hused : background ∈ assetsOf (Usage.ofProject project schema).backgrounds :=
      mem_usedBackgrounds.mpr ⟨hbackground, hid ▸ hhas.1, scene.id, hid ▸ .background hscene⟩
    obtain ⟨variant, hvariant⟩ := List.exists_mem_of_ne_nil _
      (List.ne_nil_of_mem (List.mem_of_head? (head?_variantsOf project background)))
    obtain ⟨first, common⟩ := variant
    obtain rfl : first = background := (mem_variantsOf.mp hvariant).1
    obtain ⟨entry, hentry, hentryId, -⟩ := h.exists_entry hused hvariant
    have hne := hnone entry hentry
    rw [hentryId, hid, beq_self_eq_true] at hne
    cases hne
  · intro hlacks entry hentry
    obtain ⟨background, _, _, _, hbackground, hne, -, -, hbuilt⟩ := h.exists_variant hentry
    rw [beq_eq_false_iff_ne, hbuilt.id]
    rintro heq
    rcases hlacks with hempty | hmissing
    · exact hne (heq.trans hempty)
    · exact hmissing (heq ▸ List.mem_map_of_mem hbackground)

/-- A background that is there at all is also there against the tileset of a scene that shows it. -/
lemma Presents.exists_entry_of_hasTileset (h : Presents project schema encoder table)
    (hscene : scene ∈ project.scenes) (hhas : HasTileset project scene) {any : BackgroundEntry}
    (hany : any ∈ table.entries) (hid : any.id = scene.backgroundId) :
    ∃ entry ∈ table.entries, entry.id = scene.backgroundId ∧
      entry.commonTilesetId = some scene.tilesetId := by
  obtain ⟨background, _, _, _, hbackground, hne, -, -, hbuilt⟩ := h.exists_variant hany
  have hbackgroundId : background.id = scene.backgroundId := hbuilt.id.symm.trans hid
  have hused : background ∈ assetsOf (Usage.ofProject project schema).backgrounds :=
    mem_usedBackgrounds.mpr ⟨hbackground, hne, scene.id, hbackgroundId ▸ .background hscene⟩
  obtain ⟨tileset, htileset⟩ := Option.isSome_iff_exists.mp (isSome_sceneTileset?_iff.mpr hhas)
  have hcommon := mem_commonTilesets hscene htileset
  rw [← hbackgroundId] at hcommon
  obtain ⟨entry, hentry, hentryId, hentryTileset⟩ := h.exists_entry hused
    (mem_variantsOf.mpr ⟨rfl, .inr ⟨tileset, hcommon, rfl⟩⟩)
  refine ⟨entry, hentry, hentryId.trans hbackgroundId, ?_⟩
  rw [hentryTileset, Option.map_some, (of_sceneTileset?_eq_some htileset).2.1]

/-- Backgrounds are built against tilesets of the project only. -/
lemma Presents.mem_tilesets (h : Presents project schema encoder table) {entry : BackgroundEntry}
    (hentry : entry ∈ table.entries) {id : String} (hid : entry.commonTilesetId = some id) :
    id ∈ project.tilesets.map (·.id) := by
  obtain ⟨background, common, _, _, -, -, hvariant, -, hbuilt⟩ := h.exists_variant hentry
  have hcommon : common.map (·.id) = some id := hbuilt.commonTilesetId.symm.trans hid
  obtain ⟨tileset, rfl, htileset⟩ := Option.map_eq_some_iff.mp hcommon
  rcases (mem_variantsOf.mp hvariant).2 with ⟨hnone, -⟩ | ⟨_, hmem, hsome⟩
  · cases hnone
  · cases hsome
    obtain ⟨other, -, -, hother⟩ := exists_scene_of_mem_commonTilesets hmem
    exact htileset ▸ List.mem_map_of_mem (of_sceneTileset?_eq_some hother).1

/-- Without a tileset the variant is any, with one it is the one that was built against it. -/
lemma Presents.findVariant?_eq_none_iff (h : Presents project schema encoder table)
    (hscene : scene ∈ project.scenes) (hhas : ¬LacksBackground project scene) :
    table.findVariant? scene.backgroundId scene.tilesetId = none ↔ LacksTileset project scene := by
  have hany : table.find? scene.backgroundId ≠ none := (h.find?_eq_none_iff hscene).not.mpr hhas
  rw [Backgrounds.find?, ne_eq, List.findIdx?_eq_none_iff] at hany
  push Not at hany
  obtain ⟨any, hanyMem, hanyId⟩ := hany
  rw [ne_eq, Bool.not_eq_false, beq_iff_eq] at hanyId
  rw [Backgrounds.findVariant?, List.findIdx?_eq_none_iff]
  constructor
  · intro hnone
    have hid : scene.tilesetId ≠ "" := by
      intro hempty
      have hne := hnone any hanyMem
      simp [hanyId, hempty] at hne
    refine ⟨hid, fun hmem => ?_⟩
    obtain ⟨entry, hentry, hentryId, hentryTileset⟩ :=
      h.exists_entry_of_hasTileset hscene ⟨hid, hmem⟩ hanyMem hanyId
    have hfalse := hnone entry hentry
    simp [hentryId, hentryTileset] at hfalse
  · rintro ⟨hid, hmissing⟩ entry hentry
    rw [Bool.and_eq_false_iff, Bool.or_eq_false_iff]
    refine .inr ⟨by simpa using hid, ?_⟩
    rw [beq_eq_false_iff_ne]
    exact fun heq => hmissing (h.mem_tilesets hentry heq)

lemma find?_ne_none_of_findVariant? {backgroundId tilesetId : String}
    (h : table.findVariant? backgroundId tilesetId ≠ none) : table.find? backgroundId ≠ none := by
  intro hnone
  rw [Backgrounds.find?, List.findIdx?_eq_none_iff] at hnone
  apply h
  rw [Backgrounds.findVariant?, List.findIdx?_eq_none_iff]
  intro entry hentry
  rw [hnone entry hentry, Bool.false_and]

lemma Presents.placeOf?_eq_none_iff (h : Presents project schema encoder table)
    (hscene : scene ∈ project.scenes) :
    table.placeOf? scene = none ↔ LacksBackground project scene := by
  rw [← h.find?_eq_none_iff hscene, Backgrounds.placeOf?, Option.or_eq_none_iff]
  refine and_iff_right_of_imp fun hnone => ?_
  by_contra hsome
  exact find?_ne_none_of_findVariant? hsome hnone

/-- The background at the place of a scene has the id that the scene asks for, and where the project
has the tileset, it was built against it. -/
lemma Presents.of_placeOf? (h : Presents project schema encoder table)
    (hscene : scene ∈ project.scenes) {place : Nat} (hplace : table.placeOf? scene = some place) :
    ∃ shown, table.entries[place]? = some shown ∧ shown.id = scene.backgroundId ∧
      (HasTileset project scene → shown.commonTilesetId = some scene.tilesetId) := by
  have hhas : ¬LacksBackground project scene := by
    rw [← h.placeOf?_eq_none_iff hscene, hplace]
    simp
  rw [Backgrounds.placeOf?, Option.or_eq_some_iff] at hplace
  rcases hplace with hvariant | ⟨hnone, hany⟩
  · obtain ⟨hlt, hfound, -⟩ := List.findIdx?_eq_some_iff_getElem.mp hvariant
    rw [Bool.and_eq_true, beq_iff_eq, Bool.or_eq_true, beq_iff_eq, beq_iff_eq] at hfound
    exact ⟨_, List.getElem?_eq_getElem hlt, hfound.1,
      fun htileset => hfound.2.resolve_left htileset.1⟩
  · obtain ⟨hlt, hfound, -⟩ := List.findIdx?_eq_some_iff_getElem.mp hany
    refine ⟨_, List.getElem?_eq_getElem hlt, beq_iff_eq.mp hfound, fun htileset => ?_⟩
    exact absurd htileset.2 ((h.findVariant?_eq_none_iff hscene hhas).mp hnone).2

/-- The entry is what the encoder made of a background of the project together with the tileset that
a scene asks for. -/
def EncodedAgainst (project : Project) (encoder : Encoder) (table : Backgrounds) (scene : Scene)
    (entry : BackgroundEntry) : Prop :=
  ∃ background ∈ project.backgrounds, background.id = scene.backgroundId ∧
    ∃ tileset symbol image, sceneTileset? project scene = some tileset ∧
      encoder.background project.settings.colorMode background (some tileset) = .ok image ∧
      BuiltFrom table ⟨background, some tileset, symbol⟩ image entry

lemma Presents.encodedAgainst (h : Presents project schema encoder table)
    {entry : BackgroundEntry} (hentry : entry ∈ table.entries)
    (hid : entry.id = scene.backgroundId)
    (htileset : entry.commonTilesetId = some scene.tilesetId) :
    EncodedAgainst project encoder table scene entry := by
  obtain ⟨background, common, symbol, image, hbackground, -, hvariant, himage, hbuilt⟩ :=
    h.exists_variant hentry
  have hcommon := hbuilt.commonTilesetId.symm.trans htileset
  obtain ⟨tileset, rfl, htilesetId⟩ := Option.map_eq_some_iff.mp hcommon
  refine ⟨background, hbackground, hbuilt.id.symm.trans hid, tileset, symbol, image, ?_, himage,
    hbuilt⟩
  rcases (mem_variantsOf.mp hvariant).2 with ⟨hnone, -⟩ | ⟨_, hmem, hsome⟩
  · cases hnone
  · cases hsome
    obtain ⟨other, -, -, hother⟩ := exists_scene_of_mem_commonTilesets hmem
    rw [← hother]
    apply sceneTileset?_congr
    rw [← htilesetId, (of_sceneTileset?_eq_some hother).2.1]

end

/-! ## Warnings -/

/-- The text reads like a warning about a tileset. -/
def isTilesetWarning (text : String) : Bool :=
  Text.startsWith "Error in scene " text &&
    Text.endsWith " includes a common tileset that can't be located." text

lemma isTilesetWarning_tilesetWarning (scene : Scene) (symbol : String) :
    isTilesetWarning (tilesetWarning scene symbol) = true := by
  have hlabel : "Error in scene ".toList <+:
      ("Error in scene " ++ sceneLabel scene symbol).toList := ⟨_, String.toList_append.symm⟩
  have hstart : "Error in scene ".toList <+: (tilesetWarning scene symbol).toList :=
    hlabel.trans ⟨_, String.toList_append.symm⟩
  have hend : " includes a common tileset that can't be located.".toList <:+
      (tilesetWarning scene symbol).toList := ⟨_, String.toList_append.symm⟩
  rw [isTilesetWarning, Bool.and_eq_true]
  exact ⟨List.isPrefixOf_iff_prefix.mpr hstart, List.isSuffixOf_iff_suffix.mpr hend⟩

lemma endsWith_of_isTilesetWarning (text : String) (h : isTilesetWarning text = true) :
    " includes a common tileset that can't be located.".toList <:+ text.toList :=
  List.isSuffixOf_iff_suffix.mp (Bool.and_eq_true _ _ ▸ h).2

/-- Only one of the warnings about a scene is about its tileset. -/
lemma filter_sceneWarnings (input : SceneInput) (entry : SceneEntry) :
    (sceneWarnings input entry).filter isTilesetWarning =
      if (input.backgrounds.findVariant? entry.scene.backgroundId entry.scene.tilesetId).isNone then
        [tilesetWarning entry.scene entry.symbol] else [] := by
  have hsilent : ∀ {final : String} {warnings : List String}, AllEnd final warnings →
      ¬final.toList <:+ " includes a common tileset that can't be located.".toList →
      ¬" includes a common tileset that can't be located.".toList <:+ final.toList →
      warnings.filter isTilesetWarning = [] :=
    fun h => h.filter_eq_nil endsWith_of_isTilesetWarning
  rw [sceneWarnings]
  simp only [List.filter_append]
  rw [hsilent (allEnd_warnExcess _ "actors" _ _) (by decide) (by decide),
    hsilent (allEnd_warnExcess _ "triggers" _ _) (by decide) (by decide),
    hsilent (allEnd_choosePlayerSprite _ _) (by decide) (by decide),
    hsilent (allEnd_warnMismatch _ _ _ _) (by decide) (by decide),
    hsilent (allEnd_limitProjectiles _ _ _) (by decide) (by decide), warnings_warnIf]
  split_ifs
  · rw [List.filter_cons_of_pos (isTilesetWarning_tilesetWarning _ _)]
    rfl
  · rfl

/-! ## Building scenes -/

section

variable {input : SceneInput} {scenes : List Scene}

/-- Building scenes stops at the first one without a background. -/
lemma result_buildScenes_eq_error_iff {index : Nat} {a : Allocator} {e : Error} :
    (buildScenes input index scenes a).result = .error e ↔
      ∃ i scene, scenes[i]? = some scene ∧ input.backgrounds.placeOf? scene = none ∧
        (∀ j < i, ∀ earlier, scenes[j]? = some earlier →
          input.backgrounds.placeOf? earlier ≠ none) ∧
        e = .missingBackground (scene.displayName (index + i)) := by
  induction scenes generalizing index a with
  | nil => simp [buildScenes, Outcome.ok]
  | cons first rest ih =>
    rw [buildScenes, result_bind_eq_error]
    cases hplace : input.backgrounds.placeOf? first with
    | none =>
      rw [buildScene_of_placeOf?_eq_none index a hplace]
      constructor
      · rintro (hfail | ⟨_, hok, -⟩)
        · cases hfail
          exact ⟨0, first, rfl, hplace, by simp, rfl⟩
        · cases hok
      · rintro ⟨i, scene, hscene, -, hbefore, rfl⟩
        cases i with
        | zero =>
          cases hscene
          exact .inl rfl
        | succ i => exact absurd hplace (hbefore 0 (Nat.succ_pos i) first rfl)
    | some place =>
      obtain ⟨entry, a', hrun, -⟩ := buildScene_of_placeOf?_eq_some index a hplace
      rw [hrun]
      constructor
      · rintro (hfail | ⟨⟨_, b⟩, hpair, hnext⟩)
        · cases hfail
        · rcases result_bind_eq_error.mp hnext with hrest | ⟨_, -, hpure⟩
          · obtain ⟨i, scene, hscene, hnone, hbefore, rfl⟩ := ih.mp hrest
            refine ⟨i + 1, scene, hscene, hnone, fun j hj earlier hearlier => ?_, ?_⟩
            · cases j with
              | zero =>
                cases hearlier
                rw [hplace]
                simp
              | succ j => exact hbefore j (Nat.lt_of_succ_lt_succ hj) earlier hearlier
            · rw [Nat.add_right_comm, Nat.add_assoc]
          · cases hpure
      · rintro ⟨i, scene, hscene, hnone, hbefore, rfl⟩
        cases i with
        | zero =>
          cases hscene
          rw [hplace] at hnone
          cases hnone
        | succ i =>
          refine .inr ⟨_, rfl, result_bind_eq_error.mpr (.inl (ih.mpr ⟨i, scene, hscene, hnone,
            fun j hj => hbefore (j + 1) (Nat.succ_lt_succ hj), ?_⟩))⟩
          rw [Nat.add_right_comm, Nat.add_assoc]

/-- Where every background is found, all scenes are built, each shows what was found for it, and
those whose variant was not found are warned about, in order. -/
lemma buildScenes_of_found (h : ∀ scene ∈ scenes, input.backgrounds.placeOf? scene ≠ none)
    (index : Nat) (a : Allocator) :
    ∃ entries a', (buildScenes input index scenes a).result = .ok (entries, a') ∧
      entries.map (·.scene) = scenes ∧
      (∀ entry ∈ entries, input.backgrounds.placeOf? entry.scene = some entry.background) ∧
      (buildScenes input index scenes a).warnings.filter isTilesetWarning =
        (entries.filter fun entry => (input.backgrounds.findVariant? entry.scene.backgroundId
          entry.scene.tilesetId).isNone).map fun entry =>
            tilesetWarning entry.scene entry.symbol := by
  cases hok : (buildScenes input index scenes a).result with
  | error e =>
    obtain ⟨i, scene, hscene, hnone, -⟩ := result_buildScenes_eq_error_iff.mp hok
    exact absurd hnone (h scene (List.mem_of_getElem? hscene))
  | ok built =>
    obtain ⟨hmap, hbuilt, hwarnings, -⟩ := built_of_buildScenes hok
    refine ⟨built.1, built.2, rfl, hmap, fun entry hentry => (hbuilt entry hentry).background, ?_⟩
    rw [hwarnings, List.filter_flatMap]
    simp only [filter_sceneWarnings]
    induction built.1 with
    | nil => rfl
    | cons entry entries ih =>
      rw [List.flatMap_cons, ih, List.filter_cons]
      split_ifs <;> rfl

end

/-! ## All tables -/

/-- The pictures of the interface are there or can be provided, and the encoder encodes all assets
that are used. -/
def Prepares (input : Input) (tree : FileTree) (a : Allocator) (encoder : Encoder)
    (encoded : Encoded) : Prop :=
  ∃ frame between cursor later,
    (input.template.ensureAsset tree input.root "assets/ui/frame.png").result =
      .ok (frame, between) ∧
    (input.template.ensureAsset between input.root "assets/ui/cursor.png").result =
      .ok (cursor, later) ∧
    encoder = input.encoder later ∧
    encodeAll input.project input.root encoder
      (nameAll input.project (Usage.ofProject input.project input.schema) a).1 frame cursor =
        .ok encoded

section

variable {input : Input} {tree : FileTree} {a : Allocator} {encoder : Encoder} {encoded : Encoded}

lemma Prepares.presents (h : Prepares input tree a encoder encoded) :
    Presents input.project input.schema encoder encoded.backgrounds := by
  obtain ⟨_, _, _, _, -, -, -, hencoded⟩ := h
  exact presents_encodeAll hencoded

lemma isEmpty_usedFonts (hfonts : input.project.fonts ≠ []) :
    (Usage.ofProject input.project input.schema).fonts.isEmpty = false := by
  rw [Usage.ofProject, Usage.usedFonts]
  obtain ⟨font, rest, hfont⟩ := List.exists_cons_of_ne_nil hfonts
  split
  · rw [hfont]
    rfl
  · rename_i hne
    exact List.isEmpty_eq_false_iff.mpr hne

/-- With everything encoded, building the tables comes down to building the scenes. -/
lemma Prepares.build_eq (hfonts : input.project.fonts ≠ [])
    (h : Prepares input tree a encoder encoded) :
    let usage := Usage.ofProject input.project input.schema
    let named := nameAll input.project usage a
    ∃ others, (∀ text ∈ others, ¬isTilesetWarning text = true) ∧
      build input tree a =
        ⟨others ++ (assemble input usage named.1 encoded named.2).warnings,
          (assemble input usage named.1 encoded named.2).result⟩ := by
  intro usage named
  obtain ⟨frame, between, cursor, later, hframe, hcursor, rfl, hencoded⟩ := h
  have hcopied := List.forall_mem_append.mpr
    ⟨allEnd_ensureAsset input.template tree input.root "assets/ui/frame.png",
      allEnd_ensureAsset input.template between input.root "assets/ui/cursor.png"⟩
  refine ⟨_, List.filter_eq_nil_iff.mp (AllEnd.filter_eq_nil hcopied endsWith_of_isTilesetWarning
    (by decide) (by decide)), ?_⟩
  have hnone : requireFonts input usage tree = .ok tree :=
    if_neg (by rw [isEmpty_usedFonts hfonts]; simp)
  have hstart : (requireFonts input usage tree).result = .ok tree := by
    rw [hnone]
    rfl
  have hencode : (Outcome.ofExcept (encodeAll input.project input.root (input.encoder later)
      named.1 frame cursor)).result = .ok encoded := hencoded
  rw [build, bind_of_result_eq_ok hstart, bind_of_result_eq_ok hframe]
  dsimp only
  rw [bind_of_result_eq_ok hcursor]
  dsimp only
  rw [bind_of_result_eq_ok hencode, hnone, List.append_assoc]
  rfl

/-- In tables that were built, each scene shows what is found for it. -/
lemma shown_of_build {tables : Tables} {a' : Allocator}
    (h : (build input tree a).result = .ok (tables, a')) :
    (∃ later, Presents input.project input.schema (input.encoder later) tables.backgrounds) ∧
      tables.scenes.map (·.scene) = input.project.scenes ∧
      ∀ entry ∈ tables.scenes, tables.backgrounds.placeOf? entry.scene = some entry.background := by
  obtain ⟨hscenes, hbuilt⟩ := built_of_build h
  obtain ⟨_, later, _, _, _, -, hencoded, -, -, htables⟩ := build_eq_ok h
  refine ⟨⟨later, ?_⟩, hscenes, fun entry hentry => (hbuilt entry hentry).background⟩
  rw [htables]
  exact presents_encodeAll hencoded

lemma assemble_of_found
    (h : ∀ scene ∈ input.project.scenes, encoded.backgrounds.placeOf? scene ≠ none)
    (usage : Usage) (names : Names) (a : Allocator) :
    ∃ tables a', (assemble input usage names encoded a).result = .ok (tables, a') ∧
      tables.backgrounds = encoded.backgrounds ∧
      tables.scenes.map (·.scene) = input.project.scenes ∧
      (∀ entry ∈ tables.scenes,
        encoded.backgrounds.placeOf? entry.scene = some entry.background) ∧
      (assemble input usage names encoded a).warnings.filter isTilesetWarning =
        (tables.scenes.filter fun entry => (encoded.backgrounds.findVariant?
          entry.scene.backgroundId entry.scene.tilesetId).isNone).map fun entry =>
            tilesetWarning entry.scene entry.symbol := by
  let given : SceneInput :=
    ⟨input.project, input.platform.limits, encoded.backgrounds, encoded.sprites⟩
  have hfound : ∀ scene ∈ input.project.scenes, given.backgrounds.placeOf? scene ≠ none := h
  obtain ⟨entries, a', hok, hscenes, hplaces, hwarnings⟩ := buildScenes_of_found hfound 0 a
  rw [assemble, bind_of_result_eq_ok hok]
  refine ⟨_, a', rfl, rfl, hscenes, hplaces, ?_⟩
  dsimp only
  rw [List.filter_append, hwarnings]
  exact List.append_nil _

lemma Prepares.exists_build (hfonts : input.project.fonts ≠ [])
    (h : Prepares input tree a encoder encoded)
    (hhas : ∀ scene ∈ input.project.scenes, ¬LacksBackground input.project scene) :
    ∃ tables a', (build input tree a).result = .ok (tables, a') := by
  obtain ⟨others, -, hbuild⟩ := h.build_eq hfonts
  have hfound : ∀ scene ∈ input.project.scenes, encoded.backgrounds.placeOf? scene ≠ none :=
    fun scene hscene => (h.presents.placeOf?_eq_none_iff hscene).not.mpr (hhas scene hscene)
  obtain ⟨tables, a', hok, -⟩ := assemble_of_found hfound _ _ _
  rw [hbuild]
  exact ⟨tables, a', hok⟩

/-- Scenes show the right variant of their background.  Building fails for want of a background
exactly when some scene lacks one, and names the first such scene.  Otherwise every scene shows a
background with the id it asks for, which was encoded against the scene's tileset where the project
has it, and exactly the scenes whose tileset the project does not have are warned about. -/
theorem scenes_show_their_variants (hfonts : input.project.fonts ≠ [])
    (hprepared : Prepares input tree a encoder encoded) :
    (∀ name, (build input tree a).result = .error (.missingBackground name) ↔
      ∃ i scene, input.project.scenes[i]? = some scene ∧ LacksBackground input.project scene ∧
        (∀ j < i, ∀ earlier, input.project.scenes[j]? = some earlier →
          ¬LacksBackground input.project earlier) ∧
        name = scene.displayName i) ∧
    ((∀ scene ∈ input.project.scenes, ¬LacksBackground input.project scene) →
      ∃ tables a', (build input tree a).result = .ok (tables, a') ∧
        tables.scenes.map (·.scene) = input.project.scenes ∧
        (∀ entry ∈ tables.scenes, ∃ shown,
          tables.backgrounds.entries[entry.background]? = some shown ∧
            shown.id = entry.scene.backgroundId ∧
            (HasTileset input.project entry.scene →
              EncodedAgainst input.project encoder tables.backgrounds entry.scene shown)) ∧
        (build input tree a).warnings.filter isTilesetWarning =
          (tables.scenes.filter fun entry => LacksTileset input.project entry.scene).map
            fun entry => tilesetWarning entry.scene entry.symbol) := by
  have hpresents := hprepared.presents
  obtain ⟨others, hothers, hbuild⟩ := hprepared.build_eq hfonts
  rw [hbuild]
  constructor
  · intro name
    have hmem : ∀ {i : Nat} {scene : Scene}, input.project.scenes[i]? = some scene →
        (encoded.backgrounds.placeOf? scene = none ↔ LacksBackground input.project scene) :=
      fun hscene => hpresents.placeOf?_eq_none_iff (List.mem_of_getElem? hscene)
    rw [assemble, result_bind_eq_error, result_buildScenes_eq_error_iff]
    constructor
    · rintro (⟨i, scene, hscene, hnone, hbefore, heq⟩ | ⟨_, -, hpure⟩)
      · rw [Nat.zero_add, Error.missingBackground.injEq] at heq
        exact ⟨i, scene, hscene, (hmem hscene).mp hnone, fun j hj earlier hearlier =>
          (hmem hearlier).not.mp (hbefore j hj earlier hearlier), heq⟩
      · cases hpure
    · rintro ⟨i, scene, hscene, hlacks, hbefore, rfl⟩
      exact .inl ⟨i, scene, hscene, (hmem hscene).mpr hlacks, fun j hj earlier hearlier =>
        (hmem hearlier).not.mpr (hbefore j hj earlier hearlier), by rw [Nat.zero_add]⟩
  · intro hhas
    have hfound : ∀ scene ∈ input.project.scenes, encoded.backgrounds.placeOf? scene ≠ none :=
      fun scene hscene => (hpresents.placeOf?_eq_none_iff hscene).not.mpr (hhas scene hscene)
    obtain ⟨tables, a', hok, hbackgrounds, hscenes, hplaces, hwarnings⟩ :=
      assemble_of_found hfound _ _ _
    have hmem : ∀ entry ∈ tables.scenes, entry.scene ∈ input.project.scenes := fun entry hentry =>
      hscenes ▸ List.mem_map_of_mem hentry
    refine ⟨tables, a', hok, hscenes, fun entry hentry => ?_, ?_⟩
    · obtain ⟨shown, hshown, hid, htileset⟩ :=
        hpresents.of_placeOf? (hmem entry hentry) (hplaces entry hentry)
      rw [hbackgrounds]
      exact ⟨shown, hshown, hid, fun hhasTileset => hpresents.encodedAgainst
        (List.mem_of_getElem? hshown) hid (htileset hhasTileset)⟩
    · rw [List.filter_append, List.filter_eq_nil_iff.mpr hothers, List.nil_append, hwarnings]
      refine congrArg (List.map _) (List.filter_congr fun entry hentry => ?_)
      rw [Bool.eq_iff_iff, Option.isNone_iff_eq_none, decide_eq_true_eq]
      exact hpresents.findVariant?_eq_none_iff (hmem entry hentry)
        (hhas _ (hmem entry hentry))

/-- Without a template to copy from, the encoder alone decides what can be prepared. -/
lemma exists_prepares (htemplate : input.template = .files [])
    (hencoder : ∀ e, ¬Raises (input.encoder tree) e) :
    ∃ encoded, Prepares input tree a (input.encoder tree) encoded := by
  have hassets : ∀ relative, (input.template.ensureAsset tree input.root relative).result =
      .ok (input.root.join relative, tree) := by
    intro relative
    rw [htemplate, Template.ensureAsset]
    split_ifs <;> rfl
  cases hresult : encodeAll input.project input.root (input.encoder tree)
      (nameAll input.project (Usage.ofProject input.project input.schema) a).1
      (input.root.join "assets/ui/frame.png") (input.root.join "assets/ui/cursor.png") with
  | error e => exact absurd (raisesOnly_encodeAll _ _ _ _ _ _ e hresult) (hencoder e)
  | ok encoded => exact ⟨encoded, _, tree, _, tree, hassets _, hassets _, rfl, hresult⟩

end

/-! ## A town by day and by night -/

/-- A palette of a single colour. -/
def tint (color : String) : Palette where
  colors := ⟨color, color, color, color⟩

/-- Paints a background in the one colour that its tileset is named for. -/
def tintingEncoder : Encoder where
  background _ _ common :=
    .ok ⟨[], [], [], [], 20, 18, common.map fun tileset => [tint tileset.name]⟩
  sprite _ := .ok ⟨[], [], 0⟩
  tiles _ := .ok []
  audio _ := .ok []

lemma not_raises_tintingEncoder (e : Error) : ¬Raises tintingEncoder e := by
  rintro (h | h | h | h) <;> cases h

/-- A place in the town. -/
def townScene (id backgroundId tilesetId : String) : Scene where
  id := id
  symbol := id
  backgroundId := backgroundId
  tilesetId := tilesetId
  autoFadeSpeed := none

/-- A project with scenes that show one background with several tilesets. -/
def townInput (scenes : List Scene) : Input where
  project :=
    { scenes := scenes
      backgrounds := [{ id := "town", name := "town" }, { id := "house", name := "house" }]
      tilesets := [{ id := "day", name := "80C0F8" }, { id := "night", name := "202850" }]
      fonts := [{ id := "mono", name := "mono" }]
      settings := { colorMode := .color } }
  root := ⟨"/game"⟩
  platform := .gameBoy
  schema := .builtin
  template := .files []
  encoder _ := tintingEncoder

/-- Four scenes: by day, by night, with a tileset that was lost, and with none. -/
theorem scenes_show_their_variants_town :
    let input := townInput [townScene "street" "town" "day", townScene "alley" "town" "night",
      townScene "roof" "town" "dawn", townScene "shop" "house" ""]
    ∃ tables a', (build input {} {}).result = .ok (tables, a') ∧
      (∃ entry shown, tables.scenes[1]? = some entry ∧
        tables.backgrounds.entries[entry.background]? = some shown ∧
        EncodedAgainst input.project tintingEncoder tables.backgrounds
          (townScene "alley" "town" "night") shown) ∧
      ∃ entry, tables.scenes[2]? = some entry ∧
        (build input {} {}).warnings.filter isTilesetWarning =
          [tilesetWarning (townScene "roof" "town" "dawn") entry.symbol] := by
  intro input
  have hfonts : input.project.fonts ≠ [] := by decide
  obtain ⟨encoded, hprepared⟩ : ∃ encoded, Prepares input {} {} tintingEncoder encoded :=
    exists_prepares rfl not_raises_tintingEncoder
  obtain ⟨tables, a', hok, hscenes, hshown, hwarnings⟩ :=
    (scenes_show_their_variants hfonts hprepared).2 (by decide)
  obtain ⟨street, _, hall, hstreet, hrest⟩ := List.map_eq_cons_iff.mp hscenes
  obtain ⟨alley, _, rfl, halley, hrest⟩ := List.map_eq_cons_iff.mp hrest
  obtain ⟨roof, _, rfl, hroof, hrest⟩ := List.map_eq_cons_iff.mp hrest
  obtain ⟨shop, rfl, hshop⟩ := List.map_eq_singleton_iff.mp hrest
  rw [hall] at hshown hwarnings
  refine ⟨tables, a', hok, ?_, roof, by rw [hall]; rfl, ?_⟩
  · obtain ⟨shown, hshown, -, hencoded⟩ := hshown alley (by simp)
    rw [halley] at hencoded
    exact ⟨alley, shown, by rw [hall]; rfl, hshown, hencoded (by decide)⟩
  · rw [hwarnings]
    simp only [List.filter_cons, hstreet, halley, hroof, hshop]
    rw [if_neg (by decide), if_neg (by decide), if_pos (by decide), if_neg (by decide), ← hroof]
    rfl

end Cartridge.Tables
