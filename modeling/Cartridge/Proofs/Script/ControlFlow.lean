import Cartridge.Proofs.Script.Execution
import Cartridge.Proofs.Script.Sharing

/-!
# Listings run their scripts

A script prescribes by its events alone which lines are executed, for given values of the
parameters and given branch decisions (`eventsTrace`).  The listing made from the script reaches
the same end by labels and jumps.

The proof goes through the structured code in between: lowering keeps the trace
(`codesTrace_eventsCode`), and laying the code out keeps it (`reaches_layout`).
-/

namespace Cartridge.Script

open Machine

/-! ## What a script prescribes -/

mutual

/-- The lines that an event prescribes after `asked` decisions, where `call` gives those of a
call, and the number of decisions asked for then. -/
def eventTrace (scope : Scope) (around : Surroundings) (call : Event → List Instruction) :
    Event → (asked : Nat) → List Instruction × Nat
  | ⟨id, command, args, branches⟩, asked =>
    let event : Event := ⟨id, command, args, branches⟩
    match event.effect with
    | .idle => ([], asked)
    | .context => ([], asked)
    | .spriteMode => ([.setSpriteMode (modeArg event)], asked)
    | .guarded =>
      if around.parameter (naturalArg args "parameter" 0) = naturalArg args "value" 0 then
        namedTrace scope around call "true" branches asked
      else ([], asked)
    | .fadeIn => ([.fadeIn (naturalArg args "speed" 1)], asked)
    | .call => (call event, asked)
    | .engine =>
      let chosen := firstTrueTrace scope around call branches asked
      (eventLines command (engineArgs scope command args) ++ chosen.1, chosen.2)

/-- The lines that a list of events prescribes. -/
def eventsTrace (scope : Scope) (around : Surroundings) (call : Event → List Instruction) :
    List Event → (asked : Nat) → List Instruction × Nat
  | [], asked => ([], asked)
  | event :: rest, asked =>
    let first := eventTrace scope around call event asked
    let others := eventsTrace scope around call rest first.2
    (first.1 ++ others.1, others.2)

/-- The lines of the first branch whose decision is true; none when all are false. -/
def firstTrueTrace (scope : Scope) (around : Surroundings) (call : Event → List Instruction) :
    List (String × List Event) → (asked : Nat) → List Instruction × Nat
  | [], asked => ([], asked)
  | (_, body) :: rest, asked =>
    if around.decision asked then eventsTrace scope around call body (asked + 1)
    else firstTrueTrace scope around call rest (asked + 1)

/-- The lines of the branch with a name. -/
def namedTrace (scope : Scope) (around : Surroundings) (call : Event → List Instruction)
    (wanted : String) : List (String × List Event) → (asked : Nat) → List Instruction × Nat
  | [], asked => ([], asked)
  | (name, body) :: rest, asked =>
    if name = wanted then eventsTrace scope around call body asked
    else namedTrace scope around call wanted rest asked

end

/-- A call prescribes the call of its callee's shared script, and nothing when the custom event is
missing or no level is left. -/
def callTrace (scope : Scope) (session : Session) (levels : Nat) (event : Event) :
    List Instruction :=
  match calleeOf? scope.library event with
  | none => []
  | some callee => if levels = 0 then [] else [.callFar (session.symbolOf callee)]

/-! ## Lowering keeps the trace -/

lemma codesTrace_append (around : Surroundings) (first second : List Code) (asked : Nat) :
    codesTrace around (first ++ second) asked =
      ((codesTrace around first asked).1 ++
          (codesTrace around second (codesTrace around first asked).2).1,
        (codesTrace around second (codesTrace around first asked).2).2) := by
  induction first generalizing asked with
  | nil => rfl
  | cons code rest ih =>
    rw [List.cons_append, codesTrace, codesTrace, ih]
    simp only [List.append_assoc]

@[simp] lemma codesTrace_singleton (around : Surroundings) (code : Code) (asked : Nat) :
    codesTrace around [code] asked = code.trace around asked := by
  simp only [codesTrace, List.append_nil]

section Trace

variable {scope : Scope} {around : Surroundings} {code : Event → List Code}
  {call : Event → List Instruction}

mutual

lemma codesTrace_eventCode
    (hcall : ∀ event asked, codesTrace around (code event) asked = (call event, asked)) :
    ∀ event asked, codesTrace around (eventCode scope code event) asked =
      eventTrace scope around call event asked
  | ⟨id, command, args, branches⟩, asked => by
    rw [eventCode, eventTrace]
    cases heffect : Event.effect ⟨id, command, args, branches⟩ with
    | guarded =>
      simp only [codesTrace_singleton, Code.trace]
      rw [codesTrace_namedCode hcall "true" branches asked]
    | call => exact hcall _ asked
    | engine =>
      simp only [codesTrace_singleton, Code.trace]
      rw [chosenTrace_branchesCode hcall branches asked]
    | _ => rfl

/-- The code of a script executes what the script prescribes. -/
lemma codesTrace_eventsCode
    (hcall : ∀ event asked, codesTrace around (code event) asked = (call event, asked)) :
    ∀ events asked, codesTrace around (eventsCode scope code events) asked =
      eventsTrace scope around call events asked
  | [], _ => rfl
  | event :: rest, asked => by
    rw [eventsCode, eventsTrace, codesTrace_append, codesTrace_eventCode hcall event asked,
      codesTrace_eventsCode hcall rest]

lemma chosenTrace_branchesCode
    (hcall : ∀ event asked, codesTrace around (code event) asked = (call event, asked)) :
    ∀ branches asked, chosenTrace around (branchesCode scope code branches) asked =
      firstTrueTrace scope around call branches asked
  | [], _ => rfl
  | (name, body) :: rest, asked => by
    rw [branchesCode, chosenTrace, firstTrueTrace, codesTrace_eventsCode hcall body,
      chosenTrace_branchesCode hcall rest]

lemma codesTrace_namedCode
    (hcall : ∀ event asked, codesTrace around (code event) asked = (call event, asked))
    (wanted : String) :
    ∀ branches asked, codesTrace around (namedCode scope code wanted branches) asked =
      namedTrace scope around call wanted branches asked
  | [], _ => rfl
  | (name, body) :: rest, asked => by
    rw [namedCode, namedTrace]
    split_ifs with hname
    · exact codesTrace_eventsCode hcall body asked
    · exact codesTrace_namedCode hcall wanted rest asked

end

end Trace

lemma codesTrace_resolvedCall (scope : Scope) (around : Surroundings) (session : Session)
    (levels : Nat) (event : Event) (asked : Nat) :
    codesTrace around (resolvedCall scope session levels event) asked =
      (callTrace scope session levels event, asked) := by
  cases levels with
  | zero =>
    rw [resolvedCall, callTrace]
    cases calleeOf? scope.library event <;> rfl
  | succ levels =>
    rw [resolvedCall, callTrace]
    cases calleeOf? scope.library event <;> rfl

/-- The code of a lowered script executes what the script prescribes, its calls named by the
session that lowering leaves. -/
lemma codesTrace_lowerScript (scope : Scope) (around : Surroundings) (levels : Nat)
    (events : List Event) (session : Session) (asked : Nat) :
    codesTrace around (lowerScript scope levels events session).1 asked =
      eventsTrace scope around
        (callTrace scope (lowerScript scope levels events session).2 levels) events asked := by
  rw [lowerScript_code (Session.Grows.refl _)]
  exact codesTrace_eventsCode (codesTrace_resolvedCall scope around _ levels) events asked

/-! ## Whole listings -/

/-- Laid out code with one ending line behind it executes the trace of the code and ends. -/
lemma runsTo_layout (around : Surroundings) (code : List Code) {final : Instruction}
    (hplaced : placed [final] = [])
    (hfinal : ∀ s : State, s.ahead = [final] → ∀ listing, step around listing s = none) :
    RunsTo around ((layout 0 code).1 ++ [final]) final (codesTrace around code 0).1 := by
  have hnodup : (placed ((layout 0 code).1 ++ [final])).Nodup := by
    rw [placed_append, hplaced, List.append_nil]
    exact (draws_layout 0 code).nodup
  have hreach := reaches_layout around hnodup 0 code [] [final] 0 [] rfl
  rw [List.nil_append] at hreach
  exact ⟨_, hreach, hfinal _ rfl _⟩

lemma runsTo_entityListing (around : Surroundings) (code : List Code) :
    RunsTo around (entityListing code) .stop (codesTrace around code 0).1 := by
  refine runsTo_layout around code rfl fun s hs listing => ?_
  rw [step, hs]

lemma runsTo_sharedListing (around : Surroundings) (code : List Code) :
    RunsTo around (sharedListing code) .returnFar (codesTrace around code 0).1 := by
  refine runsTo_layout around code rfl fun s hs listing => ?_
  rw [step, hs]

/-- A script without a loop, lowered with any number of levels left and laid out for an entity or
as a shared script with its remark in front, runs to its last line and has executed exactly what
its events prescribe, for all parameters and all branch decisions. -/
theorem lowered_listing_runsTo_iff (scope : Scope) (levels : Nat) (events : List Event)
    (session : Session) (around : Surroundings) (remark : String) (final : Instruction)
    (executed : List Instruction) :
    let lowered := lowerScript scope levels events session
    let prescribed :=
      (eventsTrace scope around (callTrace scope lowered.2 levels) events 0).1
    (RunsTo around (entityListing lowered.1) final executed ↔
        final = .stop ∧ executed = prescribed) ∧
      (RunsTo around (sharedListing (.comment remark :: lowered.1)) final executed ↔
        final = .returnFar ∧ executed = prescribed) := by
  intro lowered prescribed
  have htrace : (codesTrace around lowered.1 0).1 = prescribed := by
    rw [codesTrace_lowerScript scope around levels events session 0]
  have hremark : (codesTrace around (.comment remark :: lowered.1) 0).1 = prescribed := by
    rw [codesTrace, Code.trace]
    exact htrace
  have hentity := runsTo_entityListing around lowered.1
  have hshared := runsTo_sharedListing around (.comment remark :: lowered.1)
  rw [htrace] at hentity
  rw [hremark] at hshared
  constructor
  · constructor
    · intro hrun
      exact hrun.unique hentity
    · rintro ⟨rfl, rfl⟩
      exact hentity
  · constructor
    · intro hrun
      exact hrun.unique hshared
    · rintro ⟨rfl, rfl⟩
      exact hshared

-- The arguments of a guard: the second parameter is compared with seven.
example :
    let guard : Event :=
      { command := Command.guardParameter
        args := [("parameter", .number (.natural 1)), ("value", .number (.natural 7))]
        branches := [("true", [{ command := Command.fadeIn }])] }
    let scope : Scope :=
      { schema := .builtin, library := [], symbolFor? := fun _ _ => none, aliases := [] }
    let given (parameters : Nat → Nat) :=
      (eventsTrace scope ⟨parameters, fun _ => false⟩ (fun _ => []) [guard] 0).1
    (lowerScript scope 0 [guard] { symbols := .empty }).1 = [.guarded 1 7 [.fadeIn 1]] ∧
      given (fun p => if p = 1 then 7 else 0) = [.fadeIn 1] ∧
      given (fun p => if p = 1 then 0 else 7) = [] :=
  ⟨rfl, rfl, rfl⟩

end Cartridge.Script
