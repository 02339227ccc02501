import Cartridge.Proofs.Compile.CallGraph
import Cartridge.Proofs.Compile.FileNames
import Cartridge.Proofs.Script.Unquoted
import Cartridge.Proofs.Source.GlobalNames

/-!
# The lines of listing files

A listing is written to its file line by line.  The symbols in it were handed out and are plain, so
what can break a line in two are the texts that a listing shows as they are: remarks with the
command of an event, with the entity of a script or with the name of a custom event, and the names
of branches.  Splitting the file at its line ends gives back the head and the lines of the listing
exactly when none of these has a line end in it (`listing_split_iff_unquoted`).  Arguments stand
between quotes and never break a line.
-/

namespace Cartridge.Compile

open Cartridge.Files (FileTree)
open Cartridge.Script
open Cartridge.Source
open Cartridge.Symbol (IsPlain)

/-! ## Unquoted texts of a script -/

/-- The texts that the listing of a script shows as they are. -/
def Origin.unquoted : Origin → List String
  | entity request => (scriptLowered request.events).flatMap Event.unquoted
  | shared callee =>
    ("Custom script " ++ callee.custom.name) :: (scriptLowered callee.body).flatMap Event.unquoted

/-- The unquoted texts in the listing of a task, whatever its calls are named. -/
lemma Task.unquoted_listing (scope : Scope) (session : Session) (task : Task) :
    (task.script scope session).listing.filterMap Instruction.unquoted? =
      task.origin.unquoted := by
  obtain ⟨origin, symbol, levels⟩ := task
  have hevents := codeUnquoted_eventsCode scope (codeUnquoted_resolvedCall scope session levels)
  cases origin with
  | shared callee =>
    refine (unquoted_sharedListing _).trans ?_
    exact congrArg (("Custom script " ++ callee.custom.name) :: ·) (hevents callee.body)
  | entity request =>
    simp only [script, Origin.script, entityScript]
    split_ifs
    · exact (unquoted_loopedListing _).trans (hevents request.events)
    · exact (unquoted_entityListing _).trans (hevents request.events)

/-! ## Lines of a script -/

lemma newline_not_mem_listingHead {symbol : String} (h : '\n' ∉ symbol.toList) :
    ∀ text ∈ listingHead symbol, '\n' ∉ text.toList := by
  simp [listingHead, h]

/-- The lines of a script have no line end in them exactly when its unquoted texts have none. -/
lemma newline_not_mem_lines_iff {script : Compiled} (hsymbol : IsPlain script.symbol)
    (hcalls : ∀ symbol, .callFar symbol ∈ script.listing → IsPlain symbol) :
    (∀ text ∈ script.lines, '\n' ∉ text.toList) ↔
      ∀ text ∈ script.listing.filterMap Instruction.unquoted?, '\n' ∉ text.toList := by
  have hhead := newline_not_mem_listingHead (isLine_of_isPlain hsymbol).newline
  have hlock : ∀ text ∈ if script.lock then [indent ++ "VM_LOCK"] else [],
      '\n' ∉ text.toList := by
    cases script.lock <;> decide
  have hline : ∀ line ∈ script.listing, ('\n' ∉ line.text.toList ↔
      ∀ text, line.unquoted? = some text → '\n' ∉ text.toList) := by
    intro line hline
    apply newline_not_mem_text_iff
    rintro symbol rfl
    exact (isLine_of_isPlain (hcalls symbol hline)).newline
  -- the head and the lock are harmless, what is left are the lines of the listing
  rw [Compiled.lines, listingLines, List.forall_mem_append, List.forall_mem_append,
    and_iff_right ⟨hhead, hlock⟩, List.forall_mem_map]
  constructor
  · intro h text htext
    obtain ⟨line, hmem, htext⟩ := List.mem_filterMap.mp htext
    exact (hline line hmem).mp (h line hmem) text htext
  · intro h line hmem
    refine (hline line hmem).mpr fun text htext => h text ?_
    exact List.mem_filterMap.mpr ⟨line, hmem, htext⟩

lemma mem_files_of_script {scripts : List Compiled} {script : Compiled} (h : script ∈ scripts) :
    (script.symbol ++ ".s", String.join (script.lines.map (· ++ "\n"))) ∈
      (scripts.flatMap scriptFiles).map fun file => (file.name, file.text) := by
  have hlines : (script.lines.map line).map lineText = script.lines := by
    rw [List.map_map]
    exact (List.map_congr_left fun text _ => lineText_line text).trans (List.map_id _)
  refine List.mem_map.mpr ⟨_, List.mem_flatMap.mpr ⟨script, h, List.mem_cons_self⟩, ?_⟩
  rw [File.text, renderLines_eq_join, hlines]

/-! ## Compiled projects -/

section

variable {input : Tables.Input} {reporter : Reporter} {tree : FileTree} {scripted : Scripted}
  {script : Compiled}

section

variable (hok : (compileScripts input reporter tree).result = .ok scripted)

include hok

lemma isPlain_symbol {symbol : String} (h : symbol ∈ scripted.scripts.map Compiled.symbol) :
    IsPlain symbol := by
  obtain ⟨names, -, hplain, hown, -⟩ := exists_taken hok [] []
  exact hplain symbol (hown.subset (List.mem_append_right _ h))

/-- The scripts of a project are those of a session that finished tasks explain. -/
lemma exists_consistent :
    ∃ session tasks, scripted.scripts = session.compiled ∧
      Consistent (scripted.scope input)
        (scripted.tables.scenes.flatMap (sceneRequests (scripted.scope input)))
        ⟨session, [], tasks⟩ := by
  obtain ⟨symbols, -, -, -, hscripts⟩ := compileScripts_stages hok
  obtain ⟨tasks, hconsistent, -⟩ :=
    exists_tasks_scenes (scripted.scope input) (List.Perm.refl scripted.tables.scenes) symbols
  exact ⟨_, tasks, hscripts, hconsistent⟩

lemma isPlain_called (hscript : script ∈ scripted.scripts) {symbol : String}
    (h : .callFar symbol ∈ script.listing) : IsPlain symbol := by
  obtain ⟨session, tasks, hscripts, hconsistent⟩ := exists_consistent hok
  refine isPlain_symbol hok (List.count_pos_iff.mp ?_)
  rw [hscripts] at hscript ⊢
  rw [hconsistent.count_called hscript h]
  exact Nat.one_pos

lemma exists_origin (hscript : script ∈ scripted.scripts) :
    ∃ session origin levels,
      Reached (scripted.scope input)
        (scripted.tables.scenes.flatMap (sceneRequests (scripted.scope input))) levels origin ∧
      script = Task.script (scripted.scope input) session ⟨origin, script.symbol, levels⟩ := by
  obtain ⟨session, tasks, hscripts, hconsistent⟩ := exists_consistent hok
  rw [hscripts, hconsistent.compiled] at hscript
  obtain ⟨task, htask, rfl⟩ := List.mem_map.mp hscript
  refine ⟨session, task.origin, task.levels, hconsistent.reached htask, ?_⟩
  rw [Task.script_symbol]

end

/-- **When a listing file is read back line by line.**  Every script of a compiled project is that
of an entity or of a custom event that can be reached from one, and has its own file.  Splitting the
text of the file at its line ends gives back the lines of the script, with nothing behind the last
one, exactly when no line end stands in the texts that the listing shows as they are. -/
theorem listing_split_iff_unquoted
    (hok : (compileScripts input reporter tree).result = .ok scripted) :
    ∃ set, scripted.scriptSet = .ok set ∧
      ∀ script ∈ scripted.scripts, ∃ session origin levels text,
        Reached (scripted.scope input)
          (scripted.tables.scenes.flatMap (sceneRequests (scripted.scope input))) levels origin ∧
        script = Task.script (scripted.scope input) session ⟨origin, script.symbol, levels⟩ ∧
        set.get? (script.symbol ++ ".s") = some text ∧
        (Text.splitAt '\n' text = script.lines ++ [""] ↔
          ∀ given ∈ origin.unquoted, '\n' ∉ given.toList) := by
  obtain ⟨set, hset, hfiles, hnodup⟩ := exists_scriptSet hok
  refine ⟨set, hset, fun script hscript => ?_⟩
  obtain ⟨session, origin, levels, hreached, htask⟩ := exists_origin hok hscript
  refine ⟨session, origin, levels, _, hreached, htask,
    get?_of_mem_files hnodup (hfiles ▸ mem_files_of_script hscript), ?_⟩
  have hunquoted : script.listing.filterMap Instruction.unquoted? = origin.unquoted := by
    rw [htask, Task.unquoted_listing]
  rw [Text.splitAt_join_iff,
    newline_not_mem_lines_iff (isPlain_symbol hok (List.mem_map_of_mem hscript))
      fun symbol hcall => isPlain_called hok hscript hcall, hunquoted]

end

/-- The files of the lone event are read back line by line. -/
theorem listing_split_iff_unquoted_copy :
    ∃ scripted, (compileScripts (loneInput copyEvent) {} {}).result = .ok scripted ∧
      scripted.scripts ≠ [] ∧
      ∃ set, scripted.scriptSet = .ok set ∧
        ∀ script ∈ scripted.scripts, ∃ text,
          set.get? (script.symbol ++ ".s") = some text ∧
          Text.splitAt '\n' text = script.lines ++ [""] := by
  obtain ⟨scripted, hok, hcheck⟩ : ∃ scripted,
      (compileScripts (loneInput copyEvent) {} {}).result = .ok scripted ∧
        decide (scripted.scripts.isEmpty = false ∧ ∀ script ∈ scripted.scripts,
          ∀ given ∈ script.listing.filterMap Instruction.unquoted?, '\n' ∉ given.toList) = true :=
    exists_ok_of_check (by decide +kernel)
  obtain ⟨hsome, hgiven⟩ := of_decide_eq_true hcheck
  obtain ⟨set, hset, hfiles⟩ := listing_split_iff_unquoted hok
  refine ⟨scripted, hok, List.isEmpty_eq_false_iff.mp hsome, set, hset, fun script hscript => ?_⟩
  obtain ⟨session, origin, levels, text, -, htask, htext, hsplit⟩ := hfiles script hscript
  refine ⟨text, htext, hsplit.mpr ?_⟩
  have hscriptGiven := hgiven script hscript
  rwa [htask, Task.unquoted_listing] at hscriptGiven

/-! ## A command with a line end -/

/-- An event whose command has a line end in it and an instruction behind that. -/
def idlingEvent : Event where
  command := "EVENT_WAIT\n        VM_IDLE"

/-- The remark with the command of the lone event adds a line to the file of its script, and with it
an instruction that the listing does not have. -/
theorem command_adds_instruction :
    ∃ scripted, (compileScripts (loneInput idlingEvent) {} {}).result = .ok scripted ∧
      ∃ set, scripted.scriptSet = .ok set ∧
        ∃ script ∈ scripted.scripts, ∃ text,
          set.get? (script.symbol ++ ".s") = some text ∧
          Text.splitAt '\n' text ≠ script.lines ++ [""] ∧
          .idle ∉ script.listing ∧ Instruction.idle.text ∈ Text.splitAt '\n' text := by
  obtain ⟨scripted, hok, hcheck⟩ : ∃ scripted,
      (compileScripts (loneInput idlingEvent) {} {}).result = .ok scripted ∧
        decide (∃ script ∈ scripted.scripts, .idle ∉ script.listing ∧
          .comment idlingEvent.command ∈ script.listing) = true :=
    exists_ok_of_check (by decide +kernel)
  obtain ⟨script, hscript, hidle, hremark⟩ := of_decide_eq_true hcheck
  obtain ⟨set, hset, hfiles, hnodup⟩ := exists_scriptSet hok
  have hline : Instruction.text (.comment idlingEvent.command) ∈ script.lines :=
    List.mem_append_right _ (List.mem_map_of_mem hremark)
  refine ⟨scripted, hok, set, hset, script, hscript, _,
    get?_of_mem_files hnodup (hfiles ▸ mem_files_of_script hscript), fun heq => ?_, hidle, ?_⟩
  · exact absurd (Text.splitAt_join_iff.mp heq _ hline) (by decide)
  · rw [Text.splitAt_join]
    exact List.mem_append_left _ (List.mem_flatMap.mpr ⟨_, hline, by decide⟩)

end Cartridge.Compile
