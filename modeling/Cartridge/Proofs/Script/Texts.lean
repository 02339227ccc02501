import Mathlib.Tactic.Common
import Cartridge.Proofs.Script.Visits

/-!
# What the lines of a listing do

A listing has lines that do something and lines that only steer: labels, jumps and branches, and
what closes a script.  `Instruction.work?` forgets the steering.  What is left of the listing of a
script is the work of the events that lowering goes through, one event after the other
(`codeWork_eventsCode`).  In particular its strings are what events hand to the engine: the command
and the arguments of one event after the other (`strings_work`).
-/

namespace Cartridge.Script

/-! ## Lines -/

/-- What a line does, apart from steering.  The choice by a parameter counts without its target. -/
def Instruction.work? : Instruction → Option Instruction
  | .label _ => none
  | .comment text => some (.comment text)
  | .setSpriteMode mode => some (.setSpriteMode mode)
  | .jumpIfParameter parameter value _ => some (.jumpIfParameter parameter value 0)
  | .jump _ => none
  | .fadeIn speed => some (.fadeIn speed)
  | .callFar symbol => some (.callFar symbol)
  | .event count => some (.event count)
  | .string text => some (.string text)
  | .branch _ _ => none
  | .idle => none
  | .stop => none
  | .returnFar => none

/-- The text of a string. -/
def Instruction.string? : Instruction → Option String
  | .string text => some text
  | _ => none

/-! ## Code -/

mutual

/-- What the lines of a step do. -/
def stepWork : Code → List Instruction
  | .comment text => [.comment text]
  | .spriteMode mode => [.setSpriteMode mode]
  | .fadeIn speed => [.fadeIn speed]
  | .call symbol => [.callFar symbol]
  | .guarded parameter value body => .jumpIfParameter parameter value 0 :: codeWork body
  | .event command args branches => eventBlock command args ++ branchesWork branches

/-- What the lines of a sequence of steps do, in order. -/
def codeWork : List Code → List Instruction
  | [] => []
  | code :: rest => stepWork code ++ codeWork rest

/-- What the lines of all branches do. -/
def branchesWork : List (String × List Code) → List Instruction
  | [] => []
  | (_, body) :: rest => codeWork body ++ branchesWork rest

end

lemma codeWork_append (code rest : List Code) :
    codeWork (code ++ rest) = codeWork code ++ codeWork rest := by
  induction code with
  | nil => rfl
  | cons step code ih => rw [List.cons_append, codeWork, codeWork, ih, List.append_assoc]

lemma work_eventBlock (command : String) (args : List String) :
    (eventBlock command args).filterMap Instruction.work? = eventBlock command args := by
  have hargs : (args.map Instruction.string).filterMap Instruction.work? =
      args.map Instruction.string := by
    rw [List.filterMap_map]
    exact congrFun List.filterMap_eq_map args
  simp [eventBlock, Instruction.work?, hargs]

lemma work_branchTable (first : Nat) (branches : List (String × List Code)) :
    (branchTable first branches).filterMap Instruction.work? = [] := by
  induction branches generalizing first with
  | nil => rfl
  | cons branch rest ih =>
    simpa [branchTable, Instruction.work?, List.filterMap_cons] using ih (first + 1)

mutual

lemma work_layoutStep : ∀ (drawn : Nat) (step : Code),
    (layoutStep drawn step).1.filterMap Instruction.work? = stepWork step
  | drawn, .guarded parameter value body => by
    simp [layoutStep, stepWork, Instruction.work?, List.filterMap_cons,
      work_layout (drawn + 2) body]
  | drawn, .event command args [] => by
    simp [layoutStep, stepWork, branchesWork, work_eventBlock]
  | drawn, .event command args (branch :: rest) => by
    simp only [layoutStep, stepWork, List.filterMap_append, work_eventBlock,
      work_branchTable, work_layoutBranches]
    simp [Instruction.work?, List.filterMap_cons]
  | _, .comment _ => rfl
  | _, .spriteMode _ => rfl
  | _, .fadeIn _ => rfl
  | _, .call _ => rfl

lemma work_layout : ∀ (drawn : Nat) (code : List Code),
    (layout drawn code).1.filterMap Instruction.work? = codeWork code
  | _, [] => rfl
  | drawn, step :: rest => by
    rw [layout, List.filterMap_append, work_layoutStep drawn step, work_layout _ rest, codeWork]

lemma work_layoutBranches :
    ∀ (final first drawn : Nat) (branches : List (String × List Code)),
      (layoutBranches final first drawn branches).1.filterMap Instruction.work? =
        branchesWork branches
  | _, _, _, [] => rfl
  | final, first, drawn, (name, body) :: rest => by
    simp [layoutBranches, branchesWork, Instruction.work?, List.filterMap_cons,
      work_layout drawn body, work_layoutBranches final (first + 1) _ rest]

end

/-! ## Listings -/

lemma work_entityListing (code : List Code) :
    (entityListing code).filterMap Instruction.work? = codeWork code := by
  simp [entityListing, work_layout, Instruction.work?, List.filterMap_cons]

lemma work_loopedListing (code : List Code) :
    (loopedListing code).filterMap Instruction.work? = codeWork code := by
  simp [loopedListing, work_layout, Instruction.work?, List.filterMap_cons]

lemma work_sharedListing (code : List Code) :
    (sharedListing code).filterMap Instruction.work? = codeWork code := by
  simp [sharedListing, work_layout, Instruction.work?, List.filterMap_cons]

/-! ## Events -/

/-- What an event is lowered to, without what it holds; `call` gives the code of a call. -/
def Event.work (scope : Scope) (call : Event → List Code) (event : Event) : List Instruction :=
  match event.effect with
  | .idle => []
  | .context => [.comment (contextText event)]
  | .spriteMode => [.setSpriteMode (modeArg event)]
  | .guarded =>
    [.jumpIfParameter (naturalArg event.args "parameter" 0) (naturalArg event.args "value" 0) 0]
  | .fadeIn => [.fadeIn (naturalArg event.args "speed" 1)]
  | .call => codeWork (call event)
  | .engine => eventBlock event.command (engineArgs scope event.command event.args)

/-- The texts that an event hands to the engine. -/
def Event.handed (scope : Scope) (event : Event) : List String :=
  if event.effect = .engine then event.command :: engineArgs scope event.command event.args
  else []

section

variable (scope : Scope) (call : Event → List Code)

mutual

lemma codeWork_eventCode :
    ∀ event, codeWork (eventCode scope call event) =
      (eventLowered event).flatMap (Event.work scope call)
  | ⟨id, command, args, branches⟩ => by
    rw [eventCode, eventLowered]
    by_cases hidle : Event.effect ⟨id, command, args, branches⟩ = .idle
    · rw [hidle]
      split_ifs <;> simp [codeWork, Event.work, hidle]
    · rw [if_neg (ne_true_of_eq_false (Event.isDisabled_of_effect hidle))]
      cases heffect : Event.effect ⟨id, command, args, branches⟩ with
      | idle => exact absurd heffect hidle
      | guarded =>
        simp [codeWork, stepWork, Event.work, heffect, codeWork_namedCode "true" branches]
      | engine =>
        simp [codeWork, stepWork, Event.work, heffect, codeWork_branchesCode branches]
      | _ => simp [codeWork, stepWork, Event.work, heffect]

lemma codeWork_eventsCode :
    ∀ events, codeWork (eventsCode scope call events) =
      (scriptLowered events).flatMap (Event.work scope call)
  | [] => rfl
  | event :: rest => by
    rw [eventsCode, scriptLowered, codeWork_append, List.flatMap_append,
      codeWork_eventCode event, codeWork_eventsCode rest]

lemma codeWork_branchesCode :
    ∀ branches, branchesWork (branchesCode scope call branches) =
      (branchesLowered branches).flatMap (Event.work scope call)
  | [] => rfl
  | (_, body) :: rest => by
    rw [branchesCode, branchesLowered, branchesWork, List.flatMap_append,
      codeWork_eventsCode body, codeWork_branchesCode rest]

lemma codeWork_namedCode (wanted : String) :
    ∀ branches, codeWork (namedCode scope call wanted branches) =
      (namedLowered wanted branches).flatMap (Event.work scope call)
  | [] => rfl
  | (_, body) :: rest => by
    rw [namedCode, namedLowered]
    split_ifs
    · exact codeWork_eventsCode body
    · exact codeWork_namedCode wanted rest

end

end

lemma strings_eventBlock (command : String) (args : List String) :
    (eventBlock command args).filterMap Instruction.string? = command :: args := by
  have hargs : (args.map Instruction.string).filterMap Instruction.string? = args := by
    rw [List.filterMap_map]
    exact List.filterMap_some
  simp [eventBlock, Instruction.string?, List.filterMap_cons, hargs]

/-- The strings of an event are the texts that it hands to the engine; a call has none. -/
lemma strings_work (scope : Scope) (session : Session) (levels : Nat) (event : Event) :
    (event.work scope (resolvedCall scope session levels)).filterMap Instruction.string? =
      event.handed scope := by
  rw [Event.work, Event.handed]
  cases heffect : event.effect with
  | engine => simp [strings_eventBlock]
  | call =>
    cases levels with
    | zero => rfl
    | succ levels =>
      simp only [resolvedCall]
      cases calleeOf? scope.library event <;> rfl
  | _ => rfl

end Cartridge.Script
