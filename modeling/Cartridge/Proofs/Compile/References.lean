import Cartridge.Proofs.Compile.Variables
import Cartridge.Proofs.Tables.Assets

/-!
# References to assets

Which assets are built is settled on a walk over the scenes, before anything is lowered.  Lowering
then prints an argument that names an asset by the symbol of the asset, and by its bare id when the
tables do not have it.  The second never happens to an asset of the project where custom events are
open: the walk comes by every event whose arguments are printed, so the asset is mentioned, and what
is mentioned is in the tables (`Visited.printsAssets`).
-/

namespace Cartridge.Compile

open Cartridge.Files (FileTree)
open Cartridge.Json
open Cartridge.Project
open Cartridge.Script
open Cartridge.Symbol (Allocator)
open Cartridge.Tables (Mentions)

/-! ## Mentions of visited events -/

/-- A text that a visited event has where an id of a class is declared mentions the id. -/
lemma Visited.mentions {project : Project} {schema : Schema} {depth : Nat} {event : Event}
    (hvisited : Visited project depth event) {name id : String} {kind : Reference}
    (harg : (name, .string id) ∈ event.args) (hname : name ≠ "references")
    (hkind : schema.kind? event.command name = some kind) (hid : id ≠ "") :
    Mentions (Mention.ofProject project schema) kind id := by
  obtain ⟨owner, hvisit⟩ := hvisited
  have hargument : ⟨kind, id, owner.id⟩ ∈
      Mention.ofArgument schema event.command owner.id (name, .string id) := by
    rw [Mention.ofArgument, if_neg hname, hkind]
    exact List.mem_cons_self
  exact ⟨owner.id, mem_ofProject_of_mem_ofArgument hvisit harg hargument hid⟩

/-! ## Printed arguments -/

/-- A text is printed as the symbol that its class finds for it. -/
lemma argumentText_of_symbolFor? {scope : Scope} {command name id symbol : String}
    {kind : Reference} (hkind : scope.schema.kind? command name = some kind)
    (hvariable : kind ≠ .variable) (hsymbol : scope.symbolFor? kind id = some symbol) :
    argumentText scope command name (.string id) = "_" ++ symbol := by
  rw [argumentText, hkind]
  split
  · rename_i heq
    exact absurd (Option.some.inj heq) hvariable
  · rename_i found _ heq
    cases heq
    rw [hsymbol]
  · rename_i heq
    cases heq

/-- An argument of an event is handed to the engine unless its name is reserved. -/
lemma mem_engineArgs {scope : Scope} {command : String} {args : Fields} {arg : String × Value}
    (harg : arg ∈ args) (hname : Text.startsWith "__" arg.1 = false) :
    arg.1 ++ "=" ++ argumentText scope command arg.1 arg.2 ∈ engineArgs scope command args := by
  refine List.mem_map.mpr ⟨arg, List.mem_filter.mpr ⟨harg, ?_⟩, rfl⟩
  rw [hname]
  rfl

/-- Each argument of an event that names an asset of the project is printed as the symbol of an
asset in the tables that has the id. -/
def PrintsAssets (input : Tables.Input) (tables : Tables) (scope : Scope) (event : Event) : Prop :=
  ∀ name id kind, (name, .string id) ∈ event.args → name ≠ "references" →
    Text.startsWith "__" name = false → input.schema.kind? event.command name = some kind →
    id ≠ "" → id ∈ input.project.assetIds kind →
    ∃ symbol, (id, symbol) ∈ tables.assetSymbols kind ∧
      argumentText scope event.command name (.string id) = "_" ++ symbol ∧
      name ++ "=" ++ ("_" ++ symbol) ∈ engineArgs scope event.command event.args

section

variable {input : Tables.Input} {tree : FileTree} {a symbols : Allocator} {tables : Tables}

lemma Visited.printsAssets (htables : (Tables.build input tree a).result = .ok (tables, symbols))
    {depth : Nat} {event : Event} (hvisited : Visited input.project depth event)
    (aliases : List (String × String)) :
    PrintsAssets input tables (scopeOf input tables aliases) event := by
  intro name id kind harg hname hreserved hkind hid hasset
  have hmentions := hvisited.mentions harg hname hkind hid
  have hmem := Tables.mem_assetSymbols_of_mentions htables hmentions hasset
  obtain ⟨symbol, hsymbol, hentry⟩ := Tables.symbolFor?_of_mem hmem
  have hvariable : kind ≠ .variable := by
    rintro rfl
    exact absurd hasset List.not_mem_nil
  have htext : argumentText (scopeOf input tables aliases) event.command name (.string id) =
      "_" ++ symbol := argumentText_of_symbolFor? hkind hvariable hsymbol
  refine ⟨symbol, hentry, htext, ?_⟩
  rw [← htext]
  exact mem_engineArgs harg hreserved

/-- **Lowering meets nothing that the walk over the scenes did not see.**  Where the tables of a
project are built and its custom events are open, every compiled script comes from a task, and what
its lines do is the work of the events that lowering goes through for the task.  These events are
the ones that compiling adds itself and events that the walk visits, with the same command and
arguments.  And an event that is handed to the engine prints every asset of the project that it
names as the symbol of that asset in the tables. -/
theorem lowered_events_visited
    (hopen : ∀ custom ∈ input.project.customEvents, scriptIsOpen custom.script = true)
    (htables : (Tables.build input tree a).result = .ok (tables, symbols))
    (aliases : List (String × String)) :
    let scope := scopeOf input tables aliases
    let session := (compileScenes scope tables.scenes { symbols := symbols }).2
    ∀ compiled ∈ session.compiled, ∃ task : Task,
      compiled = task.script scope session ∧
      compiled.listing.filterMap Instruction.work? =
        task.origin.heading ++ (scriptLowered task.origin.events).flatMap
          (Event.work scope (resolvedCall scope session task.levels)) ∧
      Accounted input.project scope tables.scenes task.levels task.origin ∧
      ∀ event ∈ scriptLowered task.origin.events, event.effect = .engine →
        PrintsAssets input tables scope event := by
  intro scope session compiled hcompiled
  obtain ⟨tasks, hconsistent, -⟩ :=
    exists_tasks_scenes scope (List.Perm.refl tables.scenes) symbols
  rw [hconsistent.compiled] at hcompiled
  obtain ⟨task, htask, rfl⟩ := List.mem_map.mp hcompiled
  have haccounted : Accounted input.project scope tables.scenes task.levels task.origin :=
    (hconsistent.caused task htask).reached.accounted hopen rfl
      (Tables.takenFrom_build htables).2
  refine ⟨task, rfl, task.work_listing session, haccounted, ?_⟩
  intro event hevent heffect
  have hmet : event ∈ scriptMet task.origin.events :=
    mem_scriptMet_iff.mpr ⟨hevent, by simp [Event.isMet, heffect]⟩
  obtain ⟨depth, -, hvisited⟩ := haccounted.visited hmet
  exact hvisited.printsAssets htables aliases

end

/-! ## A reference behind a placeholder -/

/-- A custom event that shows the emote it is called with. -/
def moodEvent : CustomEvent where
  id := "mood"
  name := "Mood"
  script := [{ command := "EVENT_ACTOR_EMOTE", args := [("emoteId", .string "$feeling$")] }]

/-- A scene that shows an emote, which is named nowhere but in the call. -/
def moodInput : Tables.Input :=
  let call : Event :=
    { command := Command.callCustom
      args := [("customEventId", .string "mood"), ("feeling", .string "bang")] }
  { loneInput call with
    project :=
      { (loneInput call).project with
        customEvents := [moodEvent]
        emotes := [{ id := "bang", name := "bang" }] } }

/-- The emote of the call is printed as its symbol, and the script it is printed in is accounted
for. -/
theorem lowered_events_visited_mood :
    ∃ tables symbols, (Tables.build moodInput {} .empty).result = .ok (tables, symbols) ∧
      ∃ compiled ∈ (compileScenes (scopeOf moodInput tables []) tables.scenes
          { symbols := symbols }).2.compiled,
        .string "emoteId=_emote_bang" ∈ compiled.listing ∧
        ∃ task : Task, compiled = task.script (scopeOf moodInput tables [])
            (compileScenes (scopeOf moodInput tables []) tables.scenes { symbols := symbols }).2 ∧
          Accounted moodInput.project (scopeOf moodInput tables []) tables.scenes task.levels
            task.origin := by
  obtain ⟨⟨tables, symbols⟩, htables, hcheck⟩ : ∃ built,
      (Tables.build moodInput {} .empty).result = .ok built ∧
        decide (∃ compiled ∈ (compileScenes (scopeOf moodInput built.1 []) built.1.scenes
          { symbols := built.2 }).2.compiled,
          .string "emoteId=_emote_bang" ∈ compiled.listing) = true :=
    exists_ok_of_check (by decide +kernel)
  obtain ⟨compiled, hcompiled, htext⟩ := of_decide_eq_true hcheck
  obtain ⟨task, htask, -, haccounted, -⟩ :=
    lowered_events_visited (by decide) htables [] compiled hcompiled
  exact ⟨tables, symbols, htables, compiled, hcompiled, htext, task, htask, haccounted⟩

end Cartridge.Compile
