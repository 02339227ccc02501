import Cartridge.Proofs.Tables.SceneKeys

/-!
# The limits of a scene

A platform has room for so many actors, triggers and projectiles in a scene.  Actors and triggers
are counted before those that are not needed are left out, projectiles after those that are launched
again.  A class that has more than its limit loses the last ones, and a warning says so.

An actor is kept when its sprite sheet is built, and the sheet of an actor is built when the project
has it (`isSome_get?_iff`).  Projectiles are told apart by their keys, which stand for the ten
fields of a launch unless the digest collides (`map_projectilesOf`).
-/

namespace Cartridge.Tables

open Cartridge.Compile.Outcome (warnings_warnIf)
open Cartridge.Digest (CollisionFree keyStream)
open Cartridge.Files (FileTree)
open Cartridge.Project
open Cartridge.Script (Event)
open Cartridge.Symbol (Allocator)

/-! ## First launches -/

open Classical in
/-- The items that are not the same as an earlier one. -/
noncomputable def firsts {α : Type} (Same : α → α → Prop) (items : List α) : List α :=
  (items.zipIdx.filter fun item => ∀ earlier ∈ items.take item.2, ¬Same earlier item.1).map (·.1)

open Classical in
lemma firsts_concat {α : Type} (Same : α → α → Prop) (items : List α) (a : α) :
    firsts Same (items ++ [a]) =
      firsts Same items ++ if ∃ earlier ∈ items, Same earlier a then [] else [a] := by
  have hbefore : items.zipIdx.filter (fun item =>
        ∀ earlier ∈ (items ++ [a]).take item.2, ¬Same earlier item.1) =
      items.zipIdx.filter fun item => ∀ earlier ∈ items.take item.2, ¬Same earlier item.1 := by
    refine List.filter_congr fun item hitem => ?_
    rw [List.take_append_of_le_length (Nat.le_of_lt (List.snd_lt_of_mem_zipIdx hitem))]
  rw [firsts, List.zipIdx_append, List.filter_append, hbefore, List.map_append, firsts]
  congr 1
  split_ifs with hsame <;> simp_all

/-- The events of a scene that launch a projectile, in the order in which they are visited. -/
def launches (project : Project) (scene : Scene) : List Event :=
  ((Script.walkScene project.customEvents maxNesting scene).map (·.2.event)).filter fun event =>
    event.command == Script.Command.launchProjectile && (event.text? "spriteSheetId").isSome

/-- The launches that make another projectile than those before them. -/
noncomputable def firstLaunches (project : Project) (scene : Scene) : List Event :=
  firsts (fun event other => SameLaunch event.args other.args) (launches project scene)

/-- What is digested for the keys of projectiles. -/
def IsLaunchMessage (project : Project) (message : List UInt8) : Prop :=
  ∃ scene ∈ project.scenes, ∃ event ∈ launches project scene,
    message = keyStream "projectile" (projectileCalls event.args)

lemma projectilesOf_eq (project : Project) (scene : Scene) :
    projectilesOf project scene =
      distinctBy (·.key.text) ((launches project scene).filterMap Projectile.ofEvent?) := by
  rw [projectilesOf, launchedProjectiles, launches, spriteVisits]
  refine congrArg (distinctBy _) ?_
  induction Script.walkScene project.customEvents maxNesting scene with
  | nil => rfl
  | cons visit rest ih =>
    cases hsheet : visit.2.event.text? "spriteSheetId" with
    | none => simpa [hsheet] using ih
    | some sheet =>
      rw [List.filterMap_cons_some (by rw [hsheet]; rfl), List.map_cons, List.filter_cons,
        List.filter_cons]
      split_ifs with hcommand hlaunch hlaunch
      · rw [List.filterMap_cons, List.filterMap_cons, ih]
      · simp_all
      · simp_all
      · exact ih

lemma map_some_distinctBy {events : List Event}
    (hsheets : ∀ event ∈ events, (event.text? "spriteSheetId").isSome = true)
    (hkeys : ∀ event ∈ events, ∀ other ∈ events,
      projectileKey event.args = projectileKey other.args ↔ SameLaunch event.args other.args) :
    (distinctBy (·.key.text) (events.filterMap Projectile.ofEvent?)).map some =
      (firsts (fun event other => SameLaunch event.args other.args) events).map
        Projectile.ofEvent? := by
  induction events using List.reverseRecOn with
  | nil => rfl
  | append_singleton events event ih =>
    simp only [List.forall_mem_append, List.forall_mem_singleton] at hsheets hkeys
    obtain ⟨sheet, hsheet⟩ := Option.isSome_iff_exists.mp hsheets.2
    have hlaunched : Projectile.ofEvent? event =
        some ⟨projectileKey event.args, sheet, event.args⟩ := by
      rw [Projectile.ofEvent?, hsheet, Option.map_some]
    have hseen : ((events.filterMap Projectile.ofEvent?).map (·.key.text)).contains
        (projectileKey event.args).text = true ↔
          ∃ earlier ∈ events, SameLaunch earlier.args event.args := by
      simp only [List.contains_iff_mem, List.mem_map, List.mem_filterMap]
      constructor
      · rintro ⟨launched, ⟨earlier, hearlier, hmade⟩, htext⟩
        obtain ⟨_, -, rfl⟩ := Option.map_eq_some_iff.mp hmade
        exact ⟨earlier, hearlier, (hkeys.1 earlier hearlier).2.mp (Digest.Key.text_injective htext)⟩
      · rintro ⟨earlier, hearlier, hsame⟩
        obtain ⟨other, hother⟩ := Option.isSome_iff_exists.mp (hsheets.1 earlier hearlier)
        refine ⟨_, ⟨earlier, hearlier, by rw [Projectile.ofEvent?, hother]; rfl⟩, ?_⟩
        exact congrArg _ ((hkeys.1 earlier hearlier).2.mpr hsame)
    rw [List.filterMap_append, List.filterMap_cons_some hlaunched, List.filterMap_nil,
      distinctBy_concat, firsts_concat, List.map_append, List.map_append,
      ih hsheets.1 fun event hevent => (hkeys.1 event hevent).1]
    by_cases hsame : ∃ earlier ∈ events, SameLaunch earlier.args event.args
    · rw [if_pos (hseen.mpr hsame), if_pos hsame]
      rfl
    · rw [if_neg (hseen.not.mpr hsame), if_neg hsame, List.map_singleton, List.map_singleton,
        hlaunched]

lemma map_projectilesOf {project : Project} (hdigest : CollisionFree (IsLaunchMessage project))
    {scene : Scene} (hscene : scene ∈ project.scenes) :
    (projectilesOf project scene).map some =
      (firstLaunches project scene).map Projectile.ofEvent? := by
  rw [projectilesOf_eq]
  refine map_some_distinctBy (fun event hevent => ?_) fun event hevent other hother => ?_
  · exact (Bool.and_eq_true _ _ ▸ (List.mem_filter.mp hevent).2).2
  · exact projectileKey_eq_iff hdigest ⟨scene, hscene, event, hevent, rfl⟩
      ⟨scene, hscene, other, hother, rfl⟩

/-! ## Sprite sheets of actors -/

lemma isSome_get?_iff {input : Input} {tree : FileTree} {a a' : Allocator} {tables : Tables}
    (h : (build input tree a).result = .ok (tables, a')) {scene : Scene}
    (hscene : scene ∈ input.project.scenes) {actor : Actor} (hactor : actor ∈ scene.actors) :
    (tables.sprites.get? actor.spriteSheetId).isSome = true ↔
      actor.spriteSheetId ≠ "" ∧ actor.spriteSheetId ∈ input.project.sprites.map (·.id) := by
  obtain ⟨_, _, _, _, encoded, -, hencoded, -, -, htables⟩ := build_eq_ok h
  have hused : UsedExactly (RefersTo input.project input.schema .sprite) (·.id)
      input.project.sprites (Usage.ofProject input.project input.schema).sprites :=
    usedExactly_ofProject _ _ (by simp) (by simp) _ _
  have hids : tables.sprites.entries.map (·.id) =
      (assetsOf (Usage.ofProject input.project input.schema).sprites).map (·.id) := by
    have hnamed : (nameAll input.project (Usage.ofProject input.project input.schema)
        a).1.sprites.map Prod.fst = assetsOf (Usage.ofProject input.project input.schema).sprites :=
      map_fst_planSprites _ _
    have hfst := congrArg (List.map Prod.fst) (carries_encodeAll hencoded).sprites
    rw [List.map_map, List.map_map] at hfst
    rw [htables, ← hnamed, List.map_map]
    exact hfst
  have hget : (tables.sprites.get? actor.spriteSheetId).isSome = true ↔
      actor.spriteSheetId ∈ tables.sprites.entries.map (·.id) := by
    simp [Sprites.get?, List.find?_isSome]
  rw [hget, hids, assetsOf, hused.assets_eq]
  simp only [List.mem_map, List.mem_filter, decide_eq_true_eq]
  constructor
  · rintro ⟨sheet, ⟨hsheet, hne, -⟩, hid⟩
    exact ⟨hid ▸ hne, sheet, hsheet, hid⟩
  · rintro ⟨hne, sheet, hsheet, hid⟩
    exact ⟨sheet, ⟨hsheet, hid ▸ hne, actor.id, hid ▸ .actor hscene hactor⟩, hid⟩

/-! ## Truncated scenes -/

/-- The text reads like a warning about entities that are left out. -/
def isRemovalWarning (text : String) : Bool :=
  Text.endsWith " will be removed." text

/-- One warning, with the count and the limit, if there are more actors or triggers than that. -/
def excessWarning (label what : String) (count limit : Nat) : List String :=
  if limit < count then
    ["Error in scene " ++ label ++ " contains " ++ toString count ++ " " ++ what ++
      " when maximum is " ++ toString limit ++ ". Some " ++ what ++ " will be removed."]
  else []

/-- The warnings about entities of a scene that are left out, at most one for each class. -/
noncomputable def removalWarnings (input : Input) (entry : SceneEntry) : List String :=
  let limits := input.platform.limits
  let label := sceneLabel entry.scene entry.symbol
  let different := (firstLaunches input.project entry.scene).length
  excessWarning label "actors" entry.scene.actors.length limits.actors ++
    excessWarning label "triggers" entry.scene.triggers.length limits.triggers ++
    if limits.projectiles < different then
      ["Scene '" ++ entry.name ++ "' contains " ++ toString different ++
        " unique projectiles when maximum is " ++ toString limits.projectiles ++
        ". Some projectiles will be removed."]
    else []

lemma warnings_warnExcess (label what : String) (count limit : Nat) :
    (warnExcess label what count limit).warnings = excessWarning label what count limit := by
  rw [warnExcess, warnings_warnIf, excessWarning]
  simp only [decide_eq_true_eq]

lemma AllEnd.filter_eq_self {final : String} {warnings : List String} (h : AllEnd final warnings) :
    warnings.filter (Text.endsWith final) = warnings :=
  List.filter_eq_self.mpr fun text htext => List.isSuffixOf_iff_suffix.mpr (h text htext)

/-- Of the warnings about a scene, those about entities that are left out. -/
lemma filter_removal_sceneWarnings (input : Input) (backgrounds : Backgrounds) (sprites : Sprites)
    {entry : SceneEntry} (hcount : (projectilesOf input.project entry.scene).length =
      (firstLaunches input.project entry.scene).length) :
    (sceneWarnings ⟨input.project, input.platform.limits, backgrounds, sprites⟩ entry).filter
      isRemovalWarning = removalWarnings input entry := by
  have hsilent : ∀ {final : String} {warnings : List String}, AllEnd final warnings →
      ¬final.toList <:+ " will be removed.".toList →
      ¬" will be removed.".toList <:+ final.toList → warnings.filter isRemovalWarning = [] :=
    fun h => h.filter_eq_nil fun text => List.isSuffixOf_iff_suffix.mp
  have hheard : ∀ {warnings : List String}, AllEnd " will be removed." warnings →
      warnings.filter isRemovalWarning = warnings := fun h => h.filter_eq_self
  rw [sceneWarnings, removalWarnings]
  simp only [List.filter_append]
  rw [tilesetWarning, hsilent (allEnd_warnIf _ _ _) (by decide) (by decide),
    hheard (allEnd_warnExcess _ _ _ _), hheard (allEnd_warnExcess _ _ _ _),
    hsilent (allEnd_choosePlayerSprite _ _) (by decide) (by decide),
    hsilent (allEnd_warnMismatch _ _ _ _) (by decide) (by decide),
    hheard (allEnd_limitProjectiles _ _ _), warnings_warnExcess, warnings_warnExcess,
    warnings_limitProjectiles, hcount]
  simp only [List.nil_append, List.append_assoc]

/-- Scenes keep their first entities.  The actors of a scene are those among the first that have a
sprite sheet of the project, its triggers those among the first that do something, and its
projectiles the first that its scripts launch.  For each class with more entities than its limit
there is one warning, which names both numbers. -/
theorem scenes_keep_first_entities {input : Input} {tree : FileTree} {a a' : Allocator}
    {tables : Tables} (hok : (build input tree a).result = .ok (tables, a'))
    (hdigest : CollisionFree (IsLaunchMessage input.project)) :
    let limits := input.platform.limits
    tables.scenes.map (·.scene) = input.project.scenes ∧
    (∀ entry ∈ tables.scenes,
      entry.actors.map (·.entity) = (entry.scene.actors.take limits.actors).filter
        (fun actor => actor.spriteSheetId ≠ "" ∧
          actor.spriteSheetId ∈ input.project.sprites.map (·.id)) ∧
      entry.triggers.map (·.entity) = (entry.scene.triggers.take limits.triggers).filter
        (fun trigger => !trigger.isInert) ∧
      entry.projectiles.map some = ((firstLaunches input.project entry.scene).take
        limits.projectiles).map Projectile.ofEvent?) ∧
    (build input tree a).warnings.filter isRemovalWarning =
      tables.scenes.flatMap (removalWarnings input) := by
  obtain ⟨hscenes, hbuilt⟩ := built_of_build hok
  have hmem : ∀ entry ∈ tables.scenes, entry.scene ∈ input.project.scenes := fun entry hentry =>
    hscenes ▸ List.mem_map_of_mem hentry
  refine ⟨hscenes, fun entry hentry => ⟨?_, (hbuilt entry hentry).triggers, ?_⟩, ?_⟩
  · rw [(hbuilt entry hentry).actors, keptActors]
    refine List.filter_congr fun actor hactor => ?_
    rw [Bool.eq_iff_iff, decide_eq_true_eq]
    exact isSome_get?_iff hok (hmem entry hentry) (List.mem_of_mem_take hactor)
  · rw [(hbuilt entry hentry).projectiles, List.map_take, List.map_take,
      map_projectilesOf hdigest (hmem entry hentry)]
  · obtain ⟨copied, _, _, _, encoded, hcopied, -, hentries, hwarnings, -⟩ := build_eq_ok hok
    have hsilent : copied.filter isRemovalWarning = [] :=
      hcopied.filter_eq_nil (fun text => List.isSuffixOf_iff_suffix.mp) (by decide) (by decide)
    rw [hwarnings, (built_of_buildScenes hentries).2.2.1, List.filter_append, hsilent,
      List.nil_append, List.filter_flatMap]
    refine List.flatMap_congr fun entry hentry => filter_removal_sceneWarnings input _ _ ?_
    simpa using congrArg List.length (map_projectilesOf hdigest (hmem entry hentry))

/-! ## A crowd -/

/-- A launch with an argument besides the sprite sheet. -/
def launch (args : Json.Fields) : Event where
  command := Script.Command.launchProjectile
  args := args ++ [("spriteSheetId", .string "person")]

/-- More actors than fit, of which the first is not drawn, and two launches of one projectile. -/
def crowdScene : Scene where
  id := "crowd"
  backgroundId := "town"
  actors := {} :: List.replicate 20 { spriteSheetId := "person" }
  script := [launch [("direction", .string "up")], launch []]

/-- A project with a crowd and a sprite sheet for it. -/
def crowdInput : Input :=
  let input := townInput [crowdScene]
  { input with project := { input.project with sprites := [{ id := "person", name := "person" }] } }

lemma launches_crowd : launches crowdInput.project crowdScene =
    [launch [("direction", .string "up")], launch []] :=
  rfl

lemma firstLaunches_crowd : firstLaunches crowdInput.project crowdScene =
    [launch [("direction", .string "up")]] := by
  have hsame : SameLaunch (launch [("direction", .string "up")]).args (launch []).args :=
    sameLaunch_cons (by decide) _ _
  rw [firstLaunches, launches_crowd]
  refine (firsts_concat _ [launch [("direction", .string "up")]] (launch [])).trans ?_
  rw [if_pos ⟨_, List.mem_singleton_self _, hsame⟩, List.append_nil]
  simp [firsts]

lemma collisionFree_crowd : CollisionFree (IsLaunchMessage crowdInput.project) := by
  have hone : ∀ message, IsLaunchMessage crowdInput.project message →
      message = keyStream "projectile" (projectileCalls (launch []).args) := by
    rintro message ⟨scene, hscene, event, hevent, rfl⟩
    obtain rfl : scene = crowdScene := List.mem_singleton.mp hscene
    rw [launches_crowd, List.mem_pair] at hevent
    rcases hevent with rfl | rfl
    · decide +kernel
    · rfl
  refine ⟨fun message h => ?_, fun m n hm hn _ => (hone m hm).trans (hone n hn).symm⟩
  rw [hone message h]
  decide +kernel

/-- Of 21 actors the last is left out for want of room, the first for want of a sprite sheet. -/
theorem scenes_keep_first_entities_crowd :
    ∃ tables a' entry, (build crowdInput {} {}).result = .ok (tables, a') ∧
      tables.scenes = [entry] ∧
      entry.actors.map (·.entity) = List.replicate 19 { spriteSheetId := "person" } ∧
      entry.projectiles.map some = [Projectile.ofEvent? (launch [("direction", .string "up")])] ∧
      (build crowdInput {} {}).warnings.filter isRemovalWarning =
        excessWarning (sceneLabel crowdScene entry.symbol) "actors" 21 20 := by
  obtain ⟨encoded, hprepared⟩ : ∃ encoded, Prepares crowdInput {} {} tintingEncoder encoded :=
    exists_prepares rfl not_raises_tintingEncoder
  obtain ⟨tables, a', hok⟩ := hprepared.exists_build (by decide) (by decide)
  obtain ⟨hscenes, hentries, hwarnings⟩ := scenes_keep_first_entities hok collisionFree_crowd
  obtain ⟨entry, hall, hscene⟩ := List.map_eq_singleton_iff.mp hscenes
  obtain ⟨hactors, -, hprojectiles⟩ := hentries entry (hall ▸ List.mem_singleton_self entry)
  rw [hscene, firstLaunches_crowd] at hprojectiles
  rw [hscene] at hactors
  refine ⟨tables, a', entry, hok, hall, hactors.trans (by rfl), hprojectiles.trans (by rfl), ?_⟩
  rw [hwarnings, hall, List.flatMap_singleton, removalWarnings, hscene, firstLaunches_crowd]
  rfl

end Cartridge.Tables
