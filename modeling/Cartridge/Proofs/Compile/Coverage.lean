import Cartridge.Proofs.Compile.Additions
import Cartridge.Proofs.Compile.Consistency
import Cartridge.Proofs.Script.Texts

/-!
# The events behind the texts of scripts

`Met` says which events lowering meets while requests are compiled, and with how many levels left.
Every text in a compiled script is handed to the engine by such an event (`exists_met_of_string`).

What a project uses is collected on a walk over its scenes before anything is compiled.  Where the
custom events are open, the walk comes by everything that lowering goes through, apart from the
events that compiling adds itself (`Reached.accounted`).  Lowering meets none of those, so the walk
visits every event that is met (`Met.visited`).
-/

namespace Cartridge.Compile

open Cartridge.Project
open Cartridge.Script
open Cartridge.Tables (SceneEntry TakenFrom)

/-! ## Met events -/

/-- An event that lowering meets while requests are compiled, with the levels left for its
calls. -/
def Met (scope : Scope) (requests : List Request) (levels : Nat) (event : Event) : Prop :=
  ∃ origin, Reached scope requests levels origin ∧ event ∈ scriptMet origin.events

variable {scope : Scope} {requests : List Request}

/-- The remark at the head of a shared script. -/
def Origin.heading : Origin → List Instruction
  | entity _ => []
  | shared callee => [.comment ("Custom script " ++ callee.custom.name)]

lemma Origin.work_listing (origin : Origin) (symbol : String) (code : List Code) :
    (origin.script symbol code).listing.filterMap Instruction.work? =
      origin.heading ++ codeWork code := by
  cases origin with
  | shared callee => exact work_sharedListing _
  | entity request =>
    simp only [script, entityScript]
    split_ifs
    · exact work_loopedListing code
    · exact work_entityListing code

lemma Task.work_listing (task : Task) (session : Session) :
    (task.script scope session).listing.filterMap Instruction.work? =
      task.origin.heading ++ (scriptLowered task.origin.events).flatMap
        (Event.work scope (resolvedCall scope session task.levels)) := by
  rw [script, Origin.work_listing, codeWork_eventsCode]

/-- A text in the script of a task is handed to the engine by an event that lowering meets. -/
lemma Task.exists_met_of_string {task : Task} {session : Session} {text : String}
    (h : .string text ∈ (task.script scope session).listing) :
    ∃ event ∈ scriptMet task.origin.events, text ∈ event.handed scope := by
  have hwork : .string text ∈ (task.script scope session).listing.filterMap Instruction.work? :=
    List.mem_filterMap.mpr ⟨_, h, rfl⟩
  rw [task.work_listing, List.mem_append] at hwork
  rcases hwork with hheading | hevents
  · cases horigin : task.origin with
    | entity request =>
      rw [horigin] at hheading
      exact absurd hheading List.not_mem_nil
    | shared callee =>
      rw [horigin] at hheading
      exact absurd (List.mem_singleton.mp hheading) (by simp)
  · obtain ⟨event, hevent, hline⟩ := List.mem_flatMap.mp hevents
    have hhanded : text ∈ event.handed scope := by
      rw [← strings_work scope session task.levels event]
      exact List.mem_filterMap.mpr ⟨_, hline, rfl⟩
    refine ⟨event, mem_scriptMet_iff.mpr ⟨hevent, ?_⟩, hhanded⟩
    rw [Event.handed] at hhanded
    split_ifs at hhanded with heffect
    · simp [Event.isMet, heffect]
    · exact absurd hhanded List.not_mem_nil

/-- Every text in a compiled script is handed to the engine by a met event. -/
lemma exists_met_of_string {entries : List SceneEntry} {symbols : Symbol.Allocator}
    {compiled : Compiled} {text : String}
    (hcompiled : compiled ∈ (compileScenes scope entries { symbols := symbols }).2.compiled)
    (htext : .string text ∈ compiled.listing) :
    ∃ levels event, Met scope (entries.flatMap (sceneRequests scope)) levels event ∧
      text ∈ event.handed scope := by
  obtain ⟨tasks, hconsistent, -⟩ := exists_tasks_scenes scope (List.Perm.refl entries) symbols
  rw [hconsistent.compiled] at hcompiled
  obtain ⟨task, htask, rfl⟩ := List.mem_map.mp hcompiled
  obtain ⟨event, hevent, hhanded⟩ := task.exists_met_of_string htext
  exact ⟨task.levels, event, ⟨_, (hconsistent.caused task htask).reached, hevent⟩, hhanded⟩

/-! ## Added events -/

/-- The events of a script that stand in no script of the project.  A shared script has none. -/
inductive Adds (scope : Scope) (entries : List SceneEntry) : Origin → List Event → Prop
  | entity {entry part} (hentry : entry ∈ entries) (hpart : part ∈ sceneParts entry) :
    Adds scope entries (.entity (part.request scope entry)) (part.added scope entry)
  | shared (callee) : Adds scope entries (.shared callee) []

lemma Adds.isMet_eq_false {entries : List SceneEntry} {origin : Origin} {added : List Event}
    (h : Adds scope entries origin added) : ∀ event ∈ added, event.isMet = false := by
  intro event hevent
  cases h with
  | entity => exact ScenePart.isMet_of_mem_added hevent
  | shared => exact absurd hevent List.not_mem_nil

/-! ## Lowered events are visited -/

/-- The walk over the scenes of a project visits the event inside `depth` calls. -/
def Visited (project : Project) (depth : Nat) (event : Event) : Prop :=
  ∃ owner, (owner, ⟨event, depth⟩) ∈ walkScenes project.customEvents maxNesting project.scenes

section

variable {project : Project} {event : Event}

lemma visited_iff {depth : Nat} :
    Visited project depth event ↔ ∃ scene ∈ project.scenes, ∃ owner ∈ owners scene,
      ∃ slot ∈ owner.slots, ⟨event, depth⟩ ∈ walk project.customEvents maxNesting slot.2 := by
  constructor
  · rintro ⟨owner, hmem⟩
    obtain ⟨scene, hscene, howner, slot, hslot, hvisit⟩ := mem_walkScenes.mp hmem
    exact ⟨scene, hscene, owner, howner, slot, hslot, hvisit⟩
  · rintro ⟨scene, hscene, owner, howner, slot, hslot, hvisit⟩
    exact ⟨owner, mem_walkScenes.mpr ⟨scene, hscene, howner, slot, hslot, hvisit⟩⟩

lemma StandsIn.visited {scene : Scene} (hscene : scene ∈ project.scenes)
    (h : StandsIn scene event) : Visited project 0 event := by
  obtain ⟨owner, howner, slot, hslot, hevent⟩ := h
  refine visited_iff.mpr ⟨scene, hscene, owner, howner, slot, hslot, ?_⟩
  exact mem_visitEvents_of_mem_scriptLowered _ 0 slot.2 event hevent

variable {levels : Nat} {entries : List SceneEntry}

/-- The walk goes on from a call that it visits with a level left. -/
lemma Visited.body {call : Event} {callee : Callee} {depth : Nat}
    (hopen : ∀ custom ∈ project.customEvents, scriptIsOpen custom.script = true)
    (hcall : Visited project depth call) (hlevels : depth + (levels + 1) = maxNesting)
    (heffect : call.effect = .call) (hcallee : calleeOf? project.customEvents call = some callee)
    (hevent : event ∈ scriptLowered callee.body) : Visited project (depth + 1) event := by
  obtain ⟨scene, hscene, owner, howner, slot, hslot, hvisit⟩ := visited_iff.mp hcall
  have hbody := bodyOf?_of_calleeOf? hopen heffect hcallee
  refine visited_iff.mpr ⟨scene, hscene, owner, howner, slot, hslot, ?_⟩
  refine walkFrom_subset_of_visit hbody maxNesting 0 slot.2 hvisit (by simpa using hlevels) ?_
  cases levels <;> exact mem_visitEvents_of_mem_scriptLowered _ _ callee.body event hevent

/-- What lowering goes through to compile a script are the events that compiling adds and events
that the walk over the scenes visits, inside as many calls as there are levels used up. -/
def Accounted (project : Project) (scope : Scope) (entries : List SceneEntry) (levels : Nat)
    (origin : Origin) : Prop :=
  ∃ added own, Adds scope entries origin added ∧
    (scriptLowered origin.events).Perm (added ++ own) ∧
    ∃ depth, depth + levels = maxNesting ∧ ∀ event ∈ own, Visited project depth event

lemma Accounted.visited {origin : Origin} (h : Accounted project scope entries levels origin)
    (hevent : event ∈ scriptMet origin.events) :
    ∃ depth, depth + levels = maxNesting ∧ Visited project depth event := by
  obtain ⟨added, own, hadds, hperm, depth, hdepth, hvisited⟩ := h
  obtain ⟨hlowered, hmet⟩ := mem_scriptMet_iff.mp hevent
  refine ⟨depth, hdepth, hvisited event ?_⟩
  refine (List.mem_append.mp (hperm.mem_iff.mp hlowered)).resolve_left fun hadded => ?_
  rw [hadds.isMet_eq_false event hadded] at hmet
  cases hmet

/-- Where custom events are open, everything that compiling scenes can come to is accounted for. -/
lemma Reached.accounted {origin : Origin}
    (hopen : ∀ custom ∈ project.customEvents, scriptIsOpen custom.script = true)
    (hlibrary : scope.library = project.customEvents)
    (hentries : ∀ entry ∈ entries, ∃ scene ∈ project.scenes, TakenFrom scene entry)
    (h : Reached scope (entries.flatMap (sceneRequests scope)) levels origin) :
    Accounted project scope entries levels origin := by
  -- on the way down, each level less is one call more around the events
  induction h with
  | entity hrequest =>
    obtain ⟨entry, hentry, hrequest⟩ := List.mem_flatMap.mp hrequest
    rw [sceneRequests_eq_map] at hrequest
    obtain ⟨part, hpart, rfl⟩ := List.mem_map.mp hrequest
    obtain ⟨scene, hscene, htaken⟩ := hentries entry hentry
    exact ⟨_, _, .entity hentry hpart, part.lowered_perm, 0, Nat.zero_add _,
      fun event hown => (standsIn_of_mem_own htaken hpart hown).visited hscene⟩
  | shared _ hcallee ih =>
    obtain ⟨call, hcall, hfound⟩ := List.mem_filterMap.mp hcallee
    obtain ⟨hmet, heffect⟩ := mem_scriptCalls.mp hcall
    obtain ⟨depth, hdepth, hvisited⟩ := ih.visited hmet
    rw [hlibrary] at hfound
    exact ⟨[], _, .shared _, .refl _, depth + 1, by omega,
      fun event hevent => hvisited.body hopen hdepth heffect hfound hevent⟩

/-- Where custom events are open, the walk over the scenes visits every event that lowering meets,
inside as many calls. -/
lemma Met.visited (hopen : ∀ custom ∈ project.customEvents, scriptIsOpen custom.script = true)
    (hlibrary : scope.library = project.customEvents)
    (hentries : ∀ entry ∈ entries, ∃ scene ∈ project.scenes, TakenFrom scene entry)
    (h : Met scope (entries.flatMap (sceneRequests scope)) levels event) :
    ∃ depth, depth + levels = maxNesting ∧ Visited project depth event := by
  obtain ⟨origin, hreached, hevent⟩ := h
  exact (hreached.accounted hopen hlibrary hentries).visited hevent

end

end Cartridge.Compile
