import Cartridge.Proofs.List.Steps
import Cartridge.Proofs.Symbol.Families
import Cartridge.Tables.Basic

/-!
# What the tables take from a project

Building the tables of a project may fail, but where it succeeds the tables hold what the project
has: the variables are the used ones, and every scene of the tables is a scene of the project, with
some of its actors and triggers (`takenFrom_build`).

A scene is built if and only if its background is found.  `Built` says everything about the entry
that is made of it, and `sceneWarnings` which warnings are given on the way; what else is to be
known about scenes follows from these (`buildScene_of_placeOf?_eq_some`, `built_of_buildScenes`).
-/

namespace Cartridge.Compile.Outcome

/-- Two stages succeed together when both do. -/
lemma result_bind_eq_ok {α β : Type} {first : Outcome α} {next : α → Outcome β} {b : β} :
    (first >>= next).result = .ok b ↔ ∃ a, first.result = .ok a ∧ (next a).result = .ok b := by
  show (first.andThen next).result = .ok b ↔ _
  rw [andThen]
  cases first.result <;> simp

/-- After a stage that succeeds comes the next one; warnings add up. -/
lemma bind_of_result_eq_ok {α β : Type} {first : Outcome α} {a : α} (h : first.result = .ok a)
    (next : α → Outcome β) :
    (first >>= next) = ⟨first.warnings ++ (next a).warnings, (next a).result⟩ := by
  show first.andThen next = _
  rw [andThen, h]

lemma result_warnIf (condition : Bool) (text : String) :
    (warnIf condition text).result = .ok () := by
  rw [warnIf]
  split_ifs <;> rfl

lemma warnings_warnIf (condition : Bool) (text : String) :
    (warnIf condition text).warnings = if condition then [text] else [] := by
  rw [warnIf]
  split_ifs <;> rfl

end Cartridge.Compile.Outcome

namespace Cartridge.Tables

open Cartridge.Compile (Outcome)
open Cartridge.Compile.Outcome (bind_of_result_eq_ok result_bind_eq_ok result_warnIf
  warnings_warnIf)
open Cartridge.Project
open Cartridge.Symbol (Allocator family)
open Cartridge.Symbol.Allocator (Hands hands_allocateAll length_allocateAll)

/-! ## Names for items -/

section

variable {α : Type} {items : List α} {requests : List (String × String)} (a : Allocator)

lemma map_fst_zip_allocateAll (h : requests.length = items.length) :
    (items.zip (a.allocateAll requests).1).map Prod.fst = items :=
  List.map_fst_zip (Nat.le_of_eq (by rw [length_allocateAll, h]))

lemma map_snd_zip_allocateAll (h : requests.length = items.length) :
    (items.zip (a.allocateAll requests).1).map Prod.snd = (a.allocateAll requests).1 :=
  List.map_snd_zip (Nat.le_of_eq (by rw [length_allocateAll, h]))

/-- Items that are put together with the names handed out for them. -/
lemma hands_zip (h : requests.length = items.length) :
    Hands a (((items.zip (a.allocateAll requests).1).map Prod.snd).map family)
      (a.allocateAll requests).2 := by
  rw [map_snd_zip_allocateAll a h]
  exact hands_allocateAll a requests

lemma hands_map_zip {β : Type} (h : requests.length = items.length) {make : α × String → β}
    {symbolOf : β → String} (hmake : ∀ pair, symbolOf (make pair) = pair.2) :
    Hands a ((((items.zip (a.allocateAll requests).1).map make).map symbolOf).map family)
      (a.allocateAll requests).2 := by
  have hsymbols : ((items.zip (a.allocateAll requests).1).map make).map symbolOf =
      (items.zip (a.allocateAll requests).1).map Prod.snd := by
    rw [List.map_map]
    exact List.map_congr_left fun pair _ => hmake pair
  rw [hsymbols]
  exact hands_zip a h

end

section

variable {α : Type} (word : String) (symbolOf : α → String) (items : List α) (a : Allocator)

lemma map_entity_placeAll : (placeAll word symbolOf items a).1.map (·.entity) = items := by
  rw [placeAll, List.map_map]
  exact map_fst_zip_allocateAll a (by rw [List.length_map, List.length_zipIdx])

lemma hands_placeAll :
    Hands a (((placeAll word symbolOf items a).1.map (·.symbol)).map family)
      (placeAll word symbolOf items a).2 := by
  rw [placeAll]
  exact hands_map_zip a (by rw [List.length_map, List.length_zipIdx]) fun _ => rfl

end

/-! ## Stages of a scene -/

lemma exists_choosePlayerSprite (input : SceneInput) (scene : Scene) :
    ∃ chosen, (choosePlayerSprite input scene).result = .ok chosen := by
  rw [choosePlayerSprite]
  split
  · exact ⟨_, rfl⟩
  · split_ifs <;> exact ⟨_, rfl⟩

lemma result_warnMismatch (input : SceneInput) (name : String) (mode : SpriteMode)
    (loaded : List String) : (warnMismatch input name mode loaded).result = .ok () := by
  rw [warnMismatch]
  split <;> rfl

lemma result_limitProjectiles (limit : Nat) (name : String) (projectiles : List Projectile) :
    (limitProjectiles limit name projectiles).result = .ok (projectiles.take limit) := by
  rw [limitProjectiles]
  split_ifs with hlimit
  · rfl
  · rw [List.take_of_length_le (Nat.le_of_not_lt hlimit)]
    rfl

/-! ## The ends of warnings -/

/-- All warnings end with a text. -/
def AllEnd (final : String) (warnings : List String) : Prop :=
  ∀ text ∈ warnings, final.toList <:+ text.toList

/-- Warnings that end in another way are not among those that are looked for. -/
lemma AllEnd.filter_eq_nil {final sought : String} {heard : String → Bool} {warnings : List String}
    (h : AllEnd final warnings) (hheard : ∀ text, heard text = true → sought.toList <:+ text.toList)
    (hfinal : ¬final.toList <:+ sought.toList) (hsought : ¬sought.toList <:+ final.toList) :
    warnings.filter heard = [] := by
  rw [List.filter_eq_nil_iff]
  intro text htext htrue
  exact (List.suffix_or_suffix_of_suffix (h text htext) (hheard text htrue)).elim hfinal hsought

lemma allEnd_warnIf (condition : Bool) (front final : String) :
    AllEnd final (Outcome.warnIf condition (front ++ final)).warnings := by
  rw [warnings_warnIf]
  split_ifs <;> simp [AllEnd]

lemma allEnd_warnExcess (label what : String) (count limit : Nat) :
    AllEnd " will be removed." (warnExcess label what count limit).warnings :=
  allEnd_warnIf _ _ _

lemma allEnd_choosePlayerSprite (input : SceneInput) (scene : Scene) :
    AllEnd ", using the first available sprite" (choosePlayerSprite input scene).warnings := by
  rw [choosePlayerSprite]
  split
  · exact List.forall_mem_nil _
  · split_ifs
    · exact List.forall_mem_nil _
    · exact List.forall_mem_singleton.mpr ⟨_, String.toList_append.symm⟩

lemma allEnd_warnMismatch (input : SceneInput) (name : String) (mode : SpriteMode)
    (loaded : List String) :
    AllEnd ", they may not display correctly." (warnMismatch input name mode loaded).warnings := by
  rw [warnMismatch]
  split
  · exact List.forall_mem_nil _
  · exact List.forall_mem_singleton.mpr ⟨_, String.toList_append.symm⟩

lemma warnings_limitProjectiles (limit : Nat) (name : String) (projectiles : List Projectile) :
    (limitProjectiles limit name projectiles).warnings =
      if limit < projectiles.length then
        ["Scene '" ++ name ++ "' contains " ++ toString projectiles.length ++
          " unique projectiles when maximum is " ++ toString limit ++
          ". Some projectiles will be removed."]
      else [] := by
  rw [limitProjectiles]
  split_ifs <;> rfl

lemma allEnd_limitProjectiles (limit : Nat) (name : String) (projectiles : List Projectile) :
    AllEnd " will be removed." (limitProjectiles limit name projectiles).warnings := by
  rw [warnings_limitProjectiles]
  split_ifs
  · have hfinal : " will be removed.".toList <:+ ". Some projectiles will be removed.".toList := by
      decide
    exact List.forall_mem_singleton.mpr (hfinal.trans ⟨_, String.toList_append.symm⟩)
  · exact List.forall_mem_nil _

lemma allEnd_ensureAsset (template : Compile.Template) (tree : Files.FileTree)
    (root : Files.FilePath) (relative : String) :
    AllEnd " was missing, copying default file to project assets"
      (template.ensureAsset tree root relative).warnings := by
  rw [Compile.Template.ensureAsset]
  split_ifs
  · exact List.forall_mem_nil _
  · split
    · exact List.forall_mem_nil _
    · exact List.forall_mem_nil _
    · split
      · exact List.forall_mem_nil _
      · exact List.forall_mem_singleton.mpr ⟨_, String.toList_append.symm⟩

/-! ## One scene -/

/-- The warning about a tileset that the project does not have. -/
def tilesetWarning (scene : Scene) (symbol : String) : String :=
  "Error in scene " ++ sceneLabel scene symbol ++
    " includes a common tileset that can't be located."

/-- The projectiles that the scripts of a scene launch. -/
def projectilesOf (project : Project) (scene : Scene) : List Projectile :=
  launchedProjectiles (spriteVisits (Script.walkScene project.customEvents maxNesting scene))

/-- The warnings about a scene that is built. -/
def sceneWarnings (input : SceneInput) (entry : SceneEntry) : List String :=
  let scene := entry.scene
  let label := sceneLabel scene entry.symbol
  (Outcome.warnIf (input.backgrounds.findVariant? scene.backgroundId scene.tilesetId).isNone
      (tilesetWarning scene entry.symbol)).warnings ++
    ((warnExcess label "actors" scene.actors.length input.limits.actors).warnings ++
    ((warnExcess label "triggers" scene.triggers.length input.limits.triggers).warnings ++
    ((choosePlayerSprite input scene).warnings ++
    ((warnMismatch input entry.name entry.spriteMode entry.sprites).warnings ++
    (limitProjectiles input.limits.projectiles entry.name
      (projectilesOf input.project scene)).warnings))))

/-- The symbols of a scene, of its actors and of its triggers. -/
def SceneEntry.symbols (entry : SceneEntry) : List String :=
  entry.symbol :: (entry.actors.map (·.symbol) ++ entry.triggers.map (·.symbol))

/-- What is built of a scene. -/
structure Built (input : SceneInput) (entry : SceneEntry) : Prop where
  background : input.backgrounds.placeOf? entry.scene = some entry.background
  actors : entry.actors.map (·.entity) = keptActors input entry.scene
  triggers : entry.triggers.map (·.entity) = keptTriggers input entry.scene
  playerSprite : (choosePlayerSprite input entry.scene).result = .ok entry.playerSprite
  sprites : ∃ shown, entry.sprites = loadedSprites input entry.actors entry.exclusive shown
  projectiles : entry.projectiles =
    (projectilesOf input.project entry.scene).take input.limits.projectiles

section

variable {input : SceneInput} {scene : Scene} (index : Nat) (a : Allocator)

lemma buildScene_of_placeOf?_eq_none (h : input.backgrounds.placeOf? scene = none) :
    buildScene input index scene a = .fail (.missingBackground (scene.displayName index)) := by
  unfold buildScene
  rw [Backgrounds.placeOf?] at h
  dsimp only
  rw [h]

/-- A scene whose background is found is built, and all that happens besides is warnings. -/
lemma buildScene_of_placeOf?_eq_some {place : Nat}
    (h : input.backgrounds.placeOf? scene = some place) :
    ∃ entry a', buildScene input index scene a = ⟨sceneWarnings input entry, .ok (entry, a')⟩ ∧
      entry.scene = scene ∧ Built input entry ∧ Hands a (entry.symbols.map family) a' := by
  obtain ⟨player, hplayer⟩ := exists_choosePlayerSprite input scene
  have hplace := h
  rw [Backgrounds.placeOf?] at hplace
  unfold buildScene
  dsimp only
  rw [hplace]
  dsimp only
  rw [bind_of_result_eq_ok (result_warnIf _ _), warnExcess,
    bind_of_result_eq_ok (result_warnIf _ _), warnExcess,
    bind_of_result_eq_ok (result_warnIf _ _), bind_of_result_eq_ok hplayer,
    bind_of_result_eq_ok (result_warnMismatch _ _ _ _),
    bind_of_result_eq_ok (result_limitProjectiles _ _ _)]
  refine ⟨_, _, congrArg (Outcome.mk · _) ?_, rfl, ⟨h, map_entity_placeAll _ _ _ _,
    map_entity_placeAll _ _ _ _, hplayer, ⟨_, rfl⟩, rfl⟩, ?_⟩
  · show _ ++ (_ ++ (_ ++ (_ ++ (_ ++ (_ ++ []))))) = _
    rw [List.append_nil]
    rfl
  · rw [SceneEntry.symbols, List.map_cons, List.map_append]
    exact (a.hands_allocate _ _).append ((hands_placeAll _ _ _ _).append (hands_placeAll _ _ _ _))

lemma built_of_buildScene {entry : SceneEntry} {a' : Allocator}
    (h : (buildScene input index scene a).result = .ok (entry, a')) :
    entry.scene = scene ∧ Built input entry ∧
      (buildScene input index scene a).warnings = sceneWarnings input entry ∧
      Hands a (entry.symbols.map family) a' := by
  cases hplace : input.backgrounds.placeOf? scene with
  | none =>
    rw [buildScene_of_placeOf?_eq_none index a hplace] at h
    cases h
  | some place =>
    obtain ⟨entry, a', hrun, hscene, hbuilt, hhands⟩ :=
      buildScene_of_placeOf?_eq_some index a hplace
    rw [hrun] at h ⊢
    cases h
    exact ⟨hscene, hbuilt, rfl, hhands⟩

end

/-! ## All scenes -/

/-- Scenes are built one after the other, and the warnings come in their order. -/
lemma built_of_buildScenes {input : SceneInput} {index : Nat} {scenes : List Scene}
    {a a' : Allocator} {entries : List SceneEntry}
    (h : (buildScenes input index scenes a).result = .ok (entries, a')) :
    entries.map (·.scene) = scenes ∧ (∀ entry ∈ entries, Built input entry) ∧
      (buildScenes input index scenes a).warnings = entries.flatMap (sceneWarnings input) ∧
      Hands a ((entries.flatMap SceneEntry.symbols).map family) a' := by
  induction scenes generalizing index a a' entries with
  | nil =>
    cases h
    exact ⟨rfl, by simp, rfl, .nil a⟩
  | cons scene rest ih =>
    rw [buildScenes] at h ⊢
    obtain ⟨⟨first, b⟩, hfirst, h⟩ := result_bind_eq_ok.mp h
    obtain ⟨⟨others, c⟩, hothers, h⟩ := result_bind_eq_ok.mp h
    cases h
    obtain ⟨hscene, hbuilt, hwarnings, hhands⟩ := built_of_buildScene index a hfirst
    obtain ⟨hscenes, hbuilt', hwarnings', hhands'⟩ := ih hothers
    rw [bind_of_result_eq_ok hfirst]
    dsimp only
    rw [bind_of_result_eq_ok hothers, hwarnings, hwarnings', List.flatMap_cons, List.flatMap_cons,
      List.map_append]
    exact ⟨by rw [List.map_cons, hscene, hscenes], List.forall_mem_cons.mpr ⟨hbuilt, hbuilt'⟩,
      congrArg _ (List.append_nil _), hhands.append hhands'⟩

/-! ## All tables -/

section

variable {input : Input} {tree : Files.FileTree} {a a' : Allocator} {tables : Tables}

lemma requireFonts_eq_ok {usage : Usage} {later : Files.FileTree}
    (h : (requireFonts input usage tree).result = .ok later) :
    requireFonts input usage tree = .ok tree := by
  rw [requireFonts] at h ⊢
  split_ifs at h ⊢
  · obtain ⟨_, -, h⟩ := result_bind_eq_ok.mp h
    obtain ⟨_, -, h⟩ := result_bind_eq_ok.mp h
    cases h
  · rfl

/-- Tables that are built hold what was named and encoded, and the scenes that were built from
it.  Besides the warnings about scenes there are those about files that were copied. -/
lemma build_eq_ok (h : (build input tree a).result = .ok (tables, a')) :
    let usage := Usage.ofProject input.project input.schema
    let named := nameAll input.project usage a
    ∃ copied later frame cursor encoded,
      AllEnd " was missing, copying default file to project assets" copied ∧
      encodeAll input.project input.root (input.encoder later) named.1 frame cursor = .ok encoded ∧
      let scenes := buildScenes
        ⟨input.project, input.platform.limits, encoded.backgrounds, encoded.sprites⟩ 0
        input.project.scenes named.2
      scenes.result = .ok (tables.scenes, a') ∧
      (build input tree a).warnings = copied ++ scenes.warnings ∧
      tables = {
        vars := usage.vars
        backgrounds := encoded.backgrounds
        tilesets := encoded.tilesets
        sprites := encoded.sprites
        fonts := encoded.fonts
        avatars := encoded.avatars
        emotes := encoded.emotes
        music := encoded.music
        sounds := encoded.sounds
        interface := encoded.interface
        scenes := tables.scenes
        palettes := buildPalettes input.project encoded.backgrounds
        musicSymbols := named.1.music.symbols } := by
  rw [build] at h ⊢
  dsimp only at h ⊢
  generalize nameAll input.project (Usage.ofProject input.project input.schema) a = named at h ⊢
  obtain ⟨names, b⟩ := named
  obtain ⟨start, hfonts, h⟩ := result_bind_eq_ok.mp h
  obtain ⟨⟨frame, between⟩, hframe, h⟩ := result_bind_eq_ok.mp h
  obtain ⟨⟨cursor, later⟩, hcursor, h⟩ := result_bind_eq_ok.mp h
  obtain ⟨encoded, hencoded, h⟩ := result_bind_eq_ok.mp h
  obtain ⟨⟨scenes, _⟩, hscenes, h⟩ := result_bind_eq_ok.mp h
  cases h
  have hcopied := List.forall_mem_append.mpr
    ⟨allEnd_ensureAsset input.template start input.root "assets/ui/frame.png",
      allEnd_ensureAsset input.template between input.root "assets/ui/cursor.png"⟩
  refine ⟨_, later, frame, cursor, encoded, hcopied, hencoded, hscenes, ?_, rfl⟩
  rw [bind_of_result_eq_ok hfonts, bind_of_result_eq_ok hframe]
  dsimp only
  rw [bind_of_result_eq_ok hcursor]
  dsimp only
  rw [bind_of_result_eq_ok hencoded, assemble, bind_of_result_eq_ok hscenes,
    requireFonts_eq_ok hfonts, List.append_assoc]
  show _ ++ (_ ++ (_ ++ [])) = _
  rw [List.append_nil]

lemma built_of_build (h : (build input tree a).result = .ok (tables, a')) :
    tables.scenes.map (·.scene) = input.project.scenes ∧ ∀ entry ∈ tables.scenes,
      Built ⟨input.project, input.platform.limits, tables.backgrounds, tables.sprites⟩ entry := by
  obtain ⟨_, _, _, _, _, -, -, hscenes, -, htables⟩ := build_eq_ok h
  obtain ⟨hmap, hbuilt, -⟩ := built_of_buildScenes hscenes
  rw [htables]
  exact ⟨hmap, hbuilt⟩

lemma palettes_build (h : (build input tree a).result = .ok (tables, a')) :
    tables.palettes = buildPalettes input.project tables.backgrounds := by
  obtain ⟨_, _, _, _, _, -, -, -, -, htables⟩ := build_eq_ok h
  rw [htables]

end

/-- A scene of the tables is a scene of the project, with some of its actors and triggers. -/
structure TakenFrom (scene : Scene) (entry : SceneEntry) : Prop where
  scene_eq : entry.scene = scene
  actors : ∀ actor ∈ entry.actors, actor.entity ∈ scene.actors
  triggers : ∀ trigger ∈ entry.triggers, trigger.entity ∈ scene.triggers

lemma Built.takenFrom {input : SceneInput} {entry : SceneEntry} (h : Built input entry) :
    TakenFrom entry.scene entry := by
  refine ⟨rfl, fun actor hactor => ?_, fun trigger htrigger => ?_⟩
  · have hkept := h.actors ▸ List.mem_map_of_mem (f := Placed.entity) hactor
    exact List.mem_of_mem_take (List.mem_filter.mp hkept).1
  · have hkept := h.triggers ▸ List.mem_map_of_mem (f := Placed.entity) htrigger
    exact List.mem_of_mem_take (List.mem_filter.mp hkept).1

/-- The tables have the used variables, and scenes of the project. -/
lemma takenFrom_build {input : Input} {tree : Files.FileTree} {a a' : Allocator} {tables : Tables}
    (h : (build input tree a).result = .ok (tables, a')) :
    tables.vars = (Usage.ofProject input.project input.schema).vars ∧
      ∀ entry ∈ tables.scenes, ∃ scene ∈ input.project.scenes, TakenFrom scene entry := by
  obtain ⟨hscenes, hbuilt⟩ := built_of_build h
  obtain ⟨_, _, _, _, _, -, -, -, -, htables⟩ := build_eq_ok h
  refine ⟨by rw [htables], fun entry hentry => ⟨entry.scene, ?_, (hbuilt entry hentry).takenFrom⟩⟩
  rw [← hscenes]
  exact List.mem_map_of_mem hentry

end Cartridge.Tables
