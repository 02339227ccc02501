import Mathlib.Data.List.Perm.Basic
import Cartridge.Proofs.Compile.Requests
import Cartridge.Proofs.Script.Visits
import Cartridge.Proofs.Tables.Scenes

/-!
# What compiling adds to scripts

The script of a request is put together from scripts of the project and from events that stand in
no script: remarks that name an entity, the sprite size, the automatic fade, and the guards of
variants.  `ScenePart.added` lists these events and `ScenePart.own` the scripts of the project.
Lowering a request goes through exactly the added events and those of the project's scripts
(`ScenePart.lowered_perm`), and each of these scripts is taken from a slot of the scene, of an actor
or of a trigger (`standsIn_of_mem_own`).
-/

namespace Cartridge.Script

open Cartridge.Project (CustomEvent)

lemma scriptLowered_append (first second : List Event) :
    scriptLowered (first ++ second) = scriptLowered first ++ scriptLowered second := by
  simp only [scriptLowered_eq_flatMap, List.flatMap_append]

lemma scriptLowered_subset {script slot : List Event} (h : script ⊆ slot) :
    scriptLowered script ⊆ scriptLowered slot := by
  intro event hevent
  rw [scriptLowered_eq_flatMap] at hevent ⊢
  obtain ⟨outer, houter, hinside⟩ := List.mem_flatMap.mp hevent
  exact List.mem_flatMap.mpr ⟨outer, h houter, hinside⟩

/-! ## Variants -/

/-- The guards that are put around variants. -/
def joinGuards (policy : JoinPolicy) (variants : List Variant) : List Event :=
  let present := variants.filter fun variant => !variant.script.isEmpty
  match policy.isCollapsible, present with
  | true, [_] => []
  | _, _ => present.map Variant.guarded

/-- Variants that are left out have nothing to lower. -/
lemma flatMap_present (variants : List Variant) :
    ((variants.filter fun variant => !variant.script.isEmpty).flatMap fun variant =>
        scriptLowered variant.script) =
      (variants.map (·.script)).flatMap scriptLowered := by
  induction variants with
  | nil => rfl
  | cons variant rest ih =>
    rw [List.map_cons, List.flatMap_cons, ← ih]
    by_cases hempty : variant.script = []
    · rw [List.filter_cons_of_neg (by simp [hempty]), hempty]
      rfl
    · rw [List.filter_cons_of_pos (by simp [hempty]), List.flatMap_cons]

/-- A guard stands in front of what it guards. -/
lemma scriptLowered_map_guarded (variants : List Variant) :
    (scriptLowered (variants.map Variant.guarded)).Perm
      (variants.map Variant.guarded ++ variants.flatMap fun variant =>
        scriptLowered variant.script) := by
  have hguarded : scriptLowered (variants.map Variant.guarded) =
      variants.flatMap fun variant => [variant.guarded] ++ scriptLowered variant.script := by
    rw [scriptLowered_eq_flatMap, List.flatMap_map]
    rfl
  rw [hguarded, List.map_eq_flatMap]
  exact (List.flatMap_append_perm variants _ _).symm

lemma scriptLowered_joinVariants (policy : JoinPolicy) (variants : List Variant) :
    (scriptLowered (joinVariants policy variants)).Perm
      (joinGuards policy variants ++ (variants.map (·.script)).flatMap scriptLowered) := by
  rw [← flatMap_present, joinVariants, joinGuards]
  generalize variants.filter _ = present
  -- a lone variant that needs no guard is the one case in which nothing is added
  match policy.isCollapsible, present with
  | true, [variant] => simp
  | true, [] => exact scriptLowered_map_guarded []
  | true, first :: second :: rest => exact scriptLowered_map_guarded (first :: second :: rest)
  | false, present => exact scriptLowered_map_guarded present

lemma isMet_of_mem_joinGuards {policy : JoinPolicy} {variants : List Variant} {event : Event}
    (h : event ∈ joinGuards policy variants) : event.isMet = false := by
  rw [joinGuards] at h
  split at h
  · exact absurd h List.not_mem_nil
  · obtain ⟨variant, -, rfl⟩ := List.mem_map.mp h
    rfl

/-! ## The fade -/

/-- The fade that is put into a script. -/
def addedFade (schema : Schema) (library : List CustomEvent) (speed : Option UInt8)
    (script : List Event) : List Event :=
  match speed with
  | none => []
  | some speed => if fadePoint schema library script = .manual then [] else [fadeEvent speed]

lemma scriptLowered_addFade (schema : Schema) (library : List CustomEvent) (speed : Option UInt8)
    (script : List Event) :
    (scriptLowered (addFade schema library speed script)).Perm
      (addedFade schema library speed script ++ scriptLowered script) := by
  cases speed with
  | none => exact .refl _
  | some speed =>
    rw [addFade, addedFade]
    have hfade : eventLowered (fadeEvent speed) = [fadeEvent speed] := rfl
    cases hpoint : fadePoint schema library script with
    | manual => exact .refl _
    | before index =>
      rw [scriptLowered_append, scriptLowered, hfade, if_neg (by simp)]
      have hwhole : scriptLowered (script.take index) ++ scriptLowered (script.drop index) =
          scriptLowered script := by
        rw [← scriptLowered_append, List.take_append_drop]
      rw [← hwhole]
      exact List.perm_middle
    | append =>
      rw [scriptLowered_append, scriptLowered, hfade, if_neg (by simp)]
      exact List.perm_append_comm

lemma isMet_of_mem_addedFade {schema : Schema} {library : List CustomEvent} {speed : Option UInt8}
    {script : List Event} {event : Event} (h : event ∈ addedFade schema library speed script) :
    event.isMet = false := by
  unfold addedFade at h
  split at h
  · exact absurd h List.not_mem_nil
  · split_ifs at h
    · exact absurd h List.not_mem_nil
    · rw [List.mem_singleton.mp h]
      rfl

end Cartridge.Script

namespace Cartridge.Compile

open Cartridge.Project
open Cartridge.Script
open Cartridge.Tables (SceneEntry Placed TakenFrom)

/-! ## The start of a scene -/

/-- The remark in front of an actor's start script. -/
def actorRemark (actor : Actor) : List Event :=
  if actor.startScript.isEmpty then [] else [contextEvent "actor" actor.id "startScript"]

/-- The start script of an actor without its ends. -/
def withoutEnds (actor : Actor) : List Event :=
  actor.startScript.filter fun event => event.command ≠ Command.stop

/-- What a scene starts with besides scripts: a remark for each actor that does something, one for
the scene, and the sprite size. -/
def startAdded (entry : SceneEntry) : List Event :=
  (entry.actors.flatMap fun actor => actorRemark actor.entity) ++
    [contextEvent "scene" entry.scene.id "script",
      { command := Command.setSpriteMode, args := [("mode", .string entry.spriteMode.name)] }]

lemma scriptLowered_actorStart (actor : Actor) :
    scriptLowered (actorStart actor) = actorRemark actor ++ scriptLowered (withoutEnds actor) := by
  rw [actorStart, actorRemark, withoutEnds]
  split_ifs with hempty
  · rw [List.isEmpty_iff.mp hempty]
    rfl
  · rfl

lemma scriptLowered_startEvents (entry : SceneEntry) :
    (scriptLowered (startEvents entry)).Perm
      (startAdded entry ++
        (entry.actors.map (fun actor => withoutEnds actor.entity) ++
          [entry.scene.script]).flatMap scriptLowered) := by
  have hactors : (scriptLowered (entry.actors.flatMap fun actor => actorStart actor.entity)).Perm
      ((entry.actors.flatMap fun actor => actorRemark actor.entity) ++
        (entry.actors.map fun actor => withoutEnds actor.entity).flatMap scriptLowered) := by
    have hstarts : scriptLowered (entry.actors.flatMap fun actor => actorStart actor.entity) =
        entry.actors.flatMap fun actor =>
          actorRemark actor.entity ++ scriptLowered (withoutEnds actor.entity) := by
      simp only [scriptLowered_eq_flatMap, List.flatMap_assoc]
      simp only [← scriptLowered_eq_flatMap, scriptLowered_actorStart]
    rw [hstarts, List.flatMap_map]
    exact (List.flatMap_append_perm entry.actors _ _).symm
  rw [startEvents, startAdded, List.append_assoc, scriptLowered_append, List.flatMap_append,
    List.flatMap_singleton]
  -- the remark of the scene and the sprite size move in front of the actors' scripts
  refine (hactors.append_right _).trans ?_
  rw [scriptLowered_append, List.append_assoc, List.append_assoc]
  exact List.Perm.append_left _ (List.perm_append_comm_assoc _ _ _)

lemma isMet_of_mem_startAdded {entry : SceneEntry} {event : Event} (h : event ∈ startAdded entry) :
    event.isMet = false := by
  rw [startAdded, List.mem_append] at h
  rcases h with hactors | hscene
  · obtain ⟨actor, -, hremark⟩ := List.mem_flatMap.mp hactors
    rw [actorRemark] at hremark
    split_ifs at hremark
    · exact absurd hremark List.not_mem_nil
    · rw [List.mem_singleton.mp hremark]
      rfl
  · rcases List.mem_cons.mp hscene with rfl | hmode
    · rfl
    · rw [List.mem_singleton.mp hmode]
      rfl

/-! ## The scripts of a scene -/

/-- What is compiled for a scene. -/
inductive ScenePart
  | start
  | playerHit
  | update (actor : Placed Actor)
  | interact (actor : Placed Actor)
  | trigger (trigger : Placed Trigger)

/-- The parts of a scene in the order in which they are compiled. -/
def sceneParts (entry : SceneEntry) : List ScenePart :=
  .start :: .playerHit ::
    ((entry.actors.flatMap fun actor => [.update actor, .interact actor]) ++
      entry.triggers.map .trigger)

/-- The variants of what hits the player. -/
def playerHitVariants (scene : Scene) : List Variant :=
  [⟨0, 2, scene.playerHit1Script⟩, ⟨0, 4, scene.playerHit2Script⟩,
    ⟨0, 8, scene.playerHit3Script⟩]

/-- The variants of what an actor does when something meets it. -/
def collisionVariants (actor : Actor) : List Variant :=
  [⟨0, 0, actor.script⟩, ⟨0, 2, actor.hit1Script⟩, ⟨0, 4, actor.hit2Script⟩,
    ⟨0, 8, actor.hit3Script⟩]

/-- The variants of a trigger. -/
def triggerVariants (trigger : Trigger) : List Variant :=
  [⟨0, 1, trigger.script⟩, ⟨0, 2, trigger.leaveScript⟩]

namespace ScenePart

variable (scope : Scope) (entry : SceneEntry)

/-- The request for a part. -/
def request : ScenePart → Request
  | start => startRequest scope entry
  | playerHit => playerHitRequest entry
  | update actor => updateRequest actor
  | interact actor => interactRequest actor
  | trigger area => triggerRequest area

/-- The events of a part that stand in no script. -/
def added : ScenePart → List Event
  | start =>
    addedFade scope.schema scope.library entry.scene.autoFadeSpeed (startEvents entry) ++
      startAdded entry
  | playerHit => joinGuards .playerHit (playerHitVariants entry.scene)
  | update _ => []
  | interact actor =>
    if actor.entity.collisionGroup == "" then []
    else joinGuards .collision (collisionVariants actor.entity)
  | trigger area => joinGuards .trigger (triggerVariants area.entity)

/-- The scripts of the project that a part is made of. -/
def own : ScenePart → List (List Event)
  | start => (entry.actors.map fun actor => withoutEnds actor.entity) ++ [entry.scene.script]
  | playerHit => (playerHitVariants entry.scene).map (·.script)
  | update actor => [actor.entity.updateScript]
  | interact actor =>
    if actor.entity.collisionGroup == "" then [actor.entity.script]
    else (collisionVariants actor.entity).map (·.script)
  | trigger area => (triggerVariants area.entity).map (·.script)

variable {scope entry}

/-- Lowering a part goes through the added events and those of the project's scripts. -/
lemma lowered_perm (part : ScenePart) :
    (scriptLowered (part.request scope entry).events).Perm
      (part.added scope entry ++ (part.own entry).flatMap scriptLowered) := by
  cases part with
  | start =>
    rw [added, List.append_assoc]
    exact (scriptLowered_addFade _ _ _ _).trans
      ((scriptLowered_startEvents entry).append_left _)
  | playerHit => exact scriptLowered_joinVariants .playerHit (playerHitVariants entry.scene)
  | update actor => simp [request, updateRequest, added, own]
  | interact actor =>
    rw [request, interactRequest, added, own]
    split_ifs
    · simp
    · exact scriptLowered_joinVariants .collision (collisionVariants actor.entity)
  | trigger area => exact scriptLowered_joinVariants .trigger (triggerVariants area.entity)

lemma isMet_of_mem_added {part : ScenePart} {event : Event}
    (h : event ∈ part.added scope entry) : event.isMet = false := by
  cases part with
  | start =>
    rcases List.mem_append.mp h with hfade | hstart
    · exact isMet_of_mem_addedFade hfade
    · exact isMet_of_mem_startAdded hstart
  | playerHit =>
    rw [added] at h
    exact isMet_of_mem_joinGuards h
  | update actor => exact absurd h List.not_mem_nil
  | interact actor =>
    rw [added] at h
    split_ifs at h
    · exact absurd h List.not_mem_nil
    · exact isMet_of_mem_joinGuards h
  | trigger area =>
    rw [added] at h
    exact isMet_of_mem_joinGuards h

end ScenePart

lemma sceneRequests_eq_map (scope : Scope) (entry : SceneEntry) :
    sceneRequests scope entry = (sceneParts entry).map (ScenePart.request scope entry) := by
  simp [sceneRequests, sceneParts, ScenePart.request, List.map_flatMap]

/-! ## Where the scripts are from -/

/-- Lowering goes through the event in a script of the scene. -/
def StandsIn (scene : Scene) (event : Event) : Prop :=
  ∃ owner ∈ owners scene, ∃ slot ∈ owner.slots, event ∈ scriptLowered slot.2

namespace StandsIn

variable {scene : Scene} {event : Event} {script : List Event}

lemma of_owner {owner : Owner} (howner : owner ∈ owners scene)
    (hscript : script ∈ owner.slots.map Prod.snd) (hevent : event ∈ scriptLowered script) :
    StandsIn scene event := by
  obtain ⟨slot, hslot, rfl⟩ := List.mem_map.mp hscript
  exact ⟨owner, howner, slot, hslot, hevent⟩

lemma of_scene (hscript : script ∈ scene.slots.map Prod.snd)
    (hevent : event ∈ scriptLowered script) : StandsIn scene event :=
  of_owner List.mem_cons_self hscript hevent

lemma of_actor {actor : Actor} (hactor : actor ∈ scene.actors)
    (hscript : script ∈ actor.slots.map Prod.snd) (hevent : event ∈ scriptLowered script) :
    StandsIn scene event := by
  have howner : Owner.actor scene actor ∈ owners scene := by simp [owners, hactor]
  exact of_owner howner hscript hevent

lemma of_trigger {trigger : Trigger} (htrigger : trigger ∈ scene.triggers)
    (hscript : script ∈ trigger.slots.map Prod.snd) (hevent : event ∈ scriptLowered script) :
    StandsIn scene event := by
  have howner : Owner.trigger scene trigger ∈ owners scene := by simp [owners, htrigger]
  exact of_owner howner hscript hevent

end StandsIn

lemma mem_sceneParts {entry : SceneEntry} {part : ScenePart} (h : part ∈ sceneParts entry) :
    part = .start ∨ part = .playerHit ∨
      (∃ actor ∈ entry.actors, part = .update actor ∨ part = .interact actor) ∨
      ∃ trigger ∈ entry.triggers, part = .trigger trigger := by
  rw [sceneParts, List.mem_cons, List.mem_cons, List.mem_append] at h
  rcases h with rfl | rfl | hactors | htriggers
  · exact .inl rfl
  · exact .inr (.inl rfl)
  · obtain ⟨actor, hactor, hpart⟩ := List.mem_flatMap.mp hactors
    exact .inr (.inr (.inl ⟨actor, hactor, by simpa using hpart⟩))
  · obtain ⟨trigger, htrigger, rfl⟩ := List.mem_map.mp htriggers
    exact .inr (.inr (.inr ⟨trigger, htrigger, rfl⟩))

lemma standsIn_of_mem_own {scene : Scene} {entry : SceneEntry} {part : ScenePart} {event : Event}
    (hentry : TakenFrom scene entry) (hpart : part ∈ sceneParts entry)
    (hevent : event ∈ (part.own entry).flatMap scriptLowered) : StandsIn scene event := by
  obtain ⟨script, hscript, hinside⟩ := List.mem_flatMap.mp hevent
  rcases mem_sceneParts hpart with rfl | rfl | ⟨actor, hactor, rfl | rfl⟩ |
    ⟨trigger, htrigger, rfl⟩
  · rcases List.mem_append.mp hscript with hactors | hscene
    · obtain ⟨actor, hactor, rfl⟩ := List.mem_map.mp hactors
      have hstart : event ∈ scriptLowered actor.entity.startScript :=
        scriptLowered_subset (List.filter_subset_self _) hinside
      exact .of_actor (hentry.actors actor hactor) (by simp [Actor.slots]) hstart
    · rw [List.mem_singleton.mp hscene, hentry.scene_eq] at hinside
      exact .of_scene (by simp [Scene.slots]) hinside
  · rw [ScenePart.own, hentry.scene_eq] at hscript
    refine .of_scene ?_ hinside
    simp only [playerHitVariants, List.map_cons, List.map_nil] at hscript
    exact List.mem_cons_of_mem _ hscript
  · rw [List.mem_singleton.mp hscript] at hinside
    exact .of_actor (hentry.actors actor hactor) (by simp [Actor.slots]) hinside
  · refine .of_actor (hentry.actors actor hactor) ?_ hinside
    rw [ScenePart.own] at hscript
    split_ifs at hscript
    · rw [List.mem_singleton.mp hscript]
      simp [Actor.slots]
    · simp only [collisionVariants, List.map_cons, List.map_nil, List.mem_cons,
        List.not_mem_nil, or_false] at hscript
      rcases hscript with rfl | rfl | rfl | rfl <;> simp [Actor.slots]
  · exact .of_trigger (hentry.triggers trigger htrigger) hscript hinside

end Cartridge.Compile
