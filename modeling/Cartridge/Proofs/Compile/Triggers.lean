import Cartridge.Proofs.Compile.Additions
import Cartridge.Proofs.Script.Selection

/-!
# Triggers

A trigger joins its enter and leave scripts.  With both of them present each is guarded, and a
trigger with one script runs it unguarded, on entering and on leaving alike
(`eventsTrace_triggerEvents`).

A trigger is left out of the tables when neither of its scripts starts with anything but its end.
Lowering passes over an end wherever it stands, so what is behind the first event of such a script
would have run (`eventsTrace_of_runs_eq_false`).  Leaving the trigger out loses nothing if these
rests are idle.
-/

namespace Cartridge.Compile

open Cartridge.Project
open Cartridge.Script
open Cartridge.Tables (Placed keptTriggers)

/-! ## The joined scripts -/

/-- The enter script of a trigger runs. -/
def runsEnter (around : Surroundings) (trigger : Trigger) : Bool :=
  trigger.leaveScript.isEmpty || around.parameter 0 == 1

/-- The leave script of a trigger runs. -/
def runsLeave (around : Surroundings) (trigger : Trigger) : Bool :=
  trigger.script.isEmpty || around.parameter 0 == 2

section

variable {trigger : Trigger}

lemma triggerEvents_of_script_eq_nil (h : trigger.script = []) :
    triggerEvents trigger = trigger.leaveScript := by
  rw [triggerEvents, h]
  cases trigger.leaveScript <;> rfl

lemma triggerEvents_of_leaveScript_eq_nil (h : trigger.leaveScript = []) :
    triggerEvents trigger = trigger.script := by
  rw [triggerEvents, h]
  cases trigger.script <;> rfl

lemma triggerEvents_of_ne_nil (hscript : trigger.script ≠ []) (hleave : trigger.leaveScript ≠ []) :
    triggerEvents trigger = (triggerVariants trigger).map Variant.guarded := by
  obtain ⟨first, rest, hscript⟩ := List.exists_cons_of_ne_nil hscript
  obtain ⟨first', rest', hleave⟩ := List.exists_cons_of_ne_nil hleave
  rw [triggerEvents, triggerVariants, hscript, hleave]
  rfl

lemma selectedScript_triggerVariants (around : Surroundings) :
    selectedScript around (triggerVariants trigger) =
      (if around.parameter 0 == 1 then trigger.script else []) ++
        if around.parameter 0 == 2 then trigger.leaveScript else [] := by
  rw [triggerVariants, selectedScript_cons, selectedScript_cons]
  exact congrArg _ (List.append_nil _)

end

section

variable (scope : Scope) (around : Surroundings) (call : Event → List Instruction)

lemma eventsTrace_triggerEvents (trigger : Trigger) (asked : Nat) :
    eventsTrace scope around call (triggerEvents trigger) asked =
      eventsTrace scope around call
        ((if runsEnter around trigger then trigger.script else []) ++
          if runsLeave around trigger then trigger.leaveScript else []) asked := by
  rw [runsEnter, runsLeave]
  by_cases hscript : trigger.script = []
  · rw [triggerEvents_of_script_eq_nil hscript, hscript]
    simp
  · by_cases hleave : trigger.leaveScript = []
    · rw [triggerEvents_of_leaveScript_eq_nil hleave, hleave]
      simp
    · rw [triggerEvents_of_ne_nil hscript hleave, eventsTrace_map_guarded,
        selectedScript_triggerVariants, List.isEmpty_eq_false_iff.mpr hscript,
        List.isEmpty_eq_false_iff.mpr hleave, Bool.false_or, Bool.false_or]

end

/-- Joined variants run the scripts of those whose parameter has their value, as long as no variant
is alone.  A variant that is alone runs for every value, so the rule holds exactly when it is
selected or executes nothing.  A trigger with both scripts runs the one on entering, the other on
leaving, and nothing else. -/
theorem joined_variants_run_selected_iff (scope : Scope) (around : Surroundings)
    (call : Event → List Instruction) (policy : JoinPolicy) (variants : List Variant)
    (asked : Nat) :
    let run := fun script => eventsTrace scope around call script asked
    ((∀ variant, ¬IsLone policy variants variant) →
      run (joinVariants policy variants) = run (selectedScript around variants)) ∧
    (∀ variant, IsLone policy variants variant →
      run (joinVariants policy variants) = run variant.script) ∧
    (run (joinVariants policy variants) = run (selectedScript around variants) ↔
      ∀ variant, IsLone policy variants variant →
        variant.isSelected around = true ∨ run variant.script = ([], asked)) ∧
    ∀ trigger : Trigger, trigger.script ≠ [] → trigger.leaveScript ≠ [] →
      (around.parameter 0 = 1 → run (triggerEvents trigger) = run trigger.script) ∧
      (around.parameter 0 = 2 → run (triggerEvents trigger) = run trigger.leaveScript) ∧
      (around.parameter 0 ≠ 1 → around.parameter 0 ≠ 2 →
        run (triggerEvents trigger) = ([], asked)) := by
  intro run
  refine ⟨fun hlone => eventsTrace_joinVariants scope around call hlone asked,
    fun variant hlone => congrArg run (joinVariants_of_isLone hlone),
    eventsTrace_joinVariants_iff scope around call asked, fun trigger hscript hleave => ?_⟩
  have htrigger := eventsTrace_triggerEvents scope around call trigger asked
  rw [runsEnter, runsLeave, List.isEmpty_eq_false_iff.mpr hscript,
    List.isEmpty_eq_false_iff.mpr hleave, Bool.false_or, Bool.false_or] at htrigger
  refine ⟨fun henter => ?_, fun hexit => ?_, fun henter hexit => ?_⟩
  · simpa [henter] using htrigger
  · simpa [hexit] using htrigger
  · simpa [henter, hexit, eventsTrace] using htrigger

/-- The leave script of a trigger without an enter script runs on entering as well, although its
variant is not selected then. -/
theorem lone_leave_script_runs_on_enter :
    ¬∀ (scope : Scope) (around : Surroundings) (call : Event → List Instruction)
        (policy : JoinPolicy) (variants : List Variant) (asked : Nat),
      (variants.map fun variant => (variant.parameter, variant.value)).Nodup →
        eventsTrace scope around call (joinVariants policy variants) asked =
          eventsTrace scope around call (selectedScript around variants) asked := by
  intro hrun
  have hleave := hrun ⟨.builtin, [], fun _ _ => none, []⟩ ⟨fun _ => 1, fun _ => false⟩
    (fun _ => []) .trigger (triggerVariants { leaveScript := [{ command := Command.fadeIn }] }) 0
    (by decide)
  exact absurd (congrArg (·.1.length) hleave) (by decide)

/-! ## Inert triggers -/

section

variable {script : List Event}

/-- A script that does not start with anything is idle when its rest is. -/
lemma isIdle_of_runs_eq_false (h : Trigger.runs script = false) :
    isIdle script = isIdle script.tail := by
  cases script with
  | nil => rfl
  | cons event rest =>
    have hstop : event.command = Command.stop := by simpa [Trigger.runs] using h
    simp [isIdle, Event.isIdle, hstop]

/-- A script that does not start with anything runs its rest. -/
lemma eventsTrace_of_runs_eq_false (scope : Scope) (around : Surroundings)
    (call : Event → List Instruction) (h : Trigger.runs script = false) (asked : Nat) :
    eventsTrace scope around call script asked =
      eventsTrace scope around call script.tail asked := by
  cases script with
  | nil => rfl
  | cons event rest =>
    have hstop : event.command = Command.stop := by simpa [Trigger.runs] using h
    exact eventsTrace_cons_of_isIdle scope around call (by simp [Event.isIdle, hstop]) rest asked

end

/-- The joined scripts of a trigger are idle when one of them is missing and the other is idle; two
guards are never idle. -/
lemma isIdle_triggerEvents_iff (trigger : Trigger) :
    isIdle (triggerEvents trigger) = true ↔
      (trigger.script = [] ∨ trigger.leaveScript = []) ∧
        isIdle trigger.script = true ∧ isIdle trigger.leaveScript = true := by
  by_cases hscript : trigger.script = []
  · rw [triggerEvents_of_script_eq_nil hscript, hscript]
    simp [isIdle]
  · by_cases hleave : trigger.leaveScript = []
    · rw [triggerEvents_of_leaveScript_eq_nil hleave, hleave]
      simp [isIdle]
    · rw [triggerEvents_of_ne_nil hscript hleave]
      refine iff_of_false (fun hidle => ?_) fun h => h.1.elim hscript hleave
      cases hidle

/-- Nothing is compiled for a trigger exactly when its joined scripts are idle. -/
lemma compileScript_triggerRequest_iff (scope : Scope) (placed : Placed Trigger)
    (session : Session) :
    compileScript scope (triggerRequest placed) session = (none, session) ↔
      isIdle (triggerEvents placed.entity) = true := by
  have hskipped : (triggerRequest placed).isSkipped = isIdle (triggerEvents placed.entity) :=
    Bool.and_true _
  rw [← hskipped]
  constructor
  · intro hnone
    by_contra hcompiled
    rw [compileScript_of_not_skipped (eq_false_of_ne_true hcompiled)] at hnone
    cases congrArg Prod.fst hnone
  · exact fun hidle => compileScript_of_skipped hidle scope session

/-- A trigger that is left out as inert would have been compiled to nothing exactly when one of its
scripts is missing and nothing but idle events stands behind the first event of either.  What it
would have run are the events behind the first ones, so leaving it out changes nothing when these
are idle. -/
theorem inert_trigger_idle_iff (trigger : Trigger) (hinert : trigger.isInert = true) :
    (∀ input scene, trigger ∉ keptTriggers input scene) ∧
    (isIdle (triggerEvents trigger) = true ↔
      (trigger.script = [] ∨ trigger.leaveScript = []) ∧
        isIdle trigger.script.tail = true ∧ isIdle trigger.leaveScript.tail = true) ∧
    (∀ scope symbol session,
      compileScript scope (triggerRequest ⟨trigger, symbol⟩) session = (none, session) ↔
        isIdle (triggerEvents trigger) = true) ∧
    ∀ scope around call asked,
      eventsTrace scope around call (triggerEvents trigger) asked =
        eventsTrace scope around call
          ((if runsEnter around trigger then trigger.script.tail else []) ++
            if runsLeave around trigger then trigger.leaveScript.tail else []) asked ∧
      (isIdle trigger.script.tail = true → isIdle trigger.leaveScript.tail = true →
        eventsTrace scope around call (triggerEvents trigger) asked = ([], asked)) := by
  have hruns : Trigger.runs trigger.script = false ∧ Trigger.runs trigger.leaveScript = false := by
    simpa [Trigger.isInert] using hinert
  refine ⟨fun input scene hkept => ?_, ?_,
    fun scope symbol session => compileScript_triggerRequest_iff scope ⟨trigger, symbol⟩ session,
    fun scope around call asked => ?_⟩
  · have hnot := (List.mem_filter.mp hkept).2
    rw [hinert] at hnot
    cases hnot
  · rw [isIdle_triggerEvents_iff, isIdle_of_runs_eq_false hruns.1, isIdle_of_runs_eq_false hruns.2]
  -- the guards are read off the whole scripts, only what runs behind them is cut down
  have htail : ∀ (b : Bool) {script : List Event}, Trigger.runs script = false → ∀ asked,
      eventsTrace scope around call (if b then script else []) asked =
        eventsTrace scope around call (if b then script.tail else []) asked := by
    intro b script hscript asked
    cases b with
    | false => rfl
    | true => exact eventsTrace_of_runs_eq_false scope around call hscript asked
  have htrace := (eventsTrace_triggerEvents scope around call trigger asked).trans
    (eventsTrace_append_congr scope around call (htail _ hruns.1) (htail _ hruns.2) asked)
  refine ⟨htrace, fun hscript hleave => ?_⟩
  rw [htrace]
  refine eventsTrace_of_isIdle scope around call ?_ asked
  rw [isIdle, List.all_append, Bool.and_eq_true]
  constructor
  · split_ifs
    · exact hscript
    · rfl
  · split_ifs
    · exact hleave
    · rfl

/-- A trigger whose enter script has a text behind its end. -/
def lateTalk : Trigger where
  script := [{ command := Command.stop }, { command := "EVENT_TEXT" }]

/-- No table has the trigger, although a script would have been compiled for it. -/
theorem inert_trigger_idle_iff_lateTalk :
    lateTalk.isInert = true ∧ (∀ input scene, lateTalk ∉ keptTriggers input scene) ∧
      ∀ scope symbol session,
        compileScript scope (triggerRequest ⟨lateTalk, symbol⟩) session ≠ (none, session) := by
  obtain ⟨hdropped, -, hcompiled, -⟩ := inert_trigger_idle_iff lateTalk (by decide)
  refine ⟨by decide, hdropped, fun scope symbol session hnone => ?_⟩
  exact absurd ((hcompiled scope symbol session).mp hnone) (by decide)

/-- The trigger is left out as inert, yet its joined scripts are not idle: they hand the text to the
engine, whether the player enters or leaves. -/
theorem lateTalk_inert_not_idle :
    lateTalk.isInert = true ∧ isIdle (triggerEvents lateTalk) = false ∧
      ∀ scope around call asked,
        (eventsTrace scope around call (triggerEvents lateTalk) asked).1 =
          eventLines "EVENT_TEXT" (engineArgs scope "EVENT_TEXT" []) :=
  ⟨by decide, by decide, fun _ _ _ _ => List.append_nil _⟩

end Cartridge.Compile
