import Cartridge.Proofs.Script.Visits
import Cartridge.Proofs.Text.Lines

/-!
# Texts that a listing shows as they are

Strings stand in a listing between quotes, and a line end in them is written as two characters.
Remarks and the names of branches are not quoted: what they hold goes into the listing as it is
(`Instruction.unquoted?`).  So a line of a listing is one line of the text exactly when no line end
stands in such a text (`newline_not_mem_text_iff`).

The unquoted texts of a script are those of the events that lowering goes through, in order
(`codeUnquoted_eventsCode`): the remark of a context, and for an event of the engine its command
and the names of its branches.
-/

namespace Cartridge.Script

/-! ## Lines -/

/-- What a line shows as it is: the text of a remark, the name of a branch. -/
def Instruction.unquoted? : Instruction → Option String
  | .comment text => some text
  | .branch _ name => some name
  | _ => none

lemma newline_not_mem_decimal (n : Nat) : '\n' ∉ (decimal n).toList := by
  rw [decimal, String.toList_ofList]
  intro hmem
  exact absurd (Nat.isDigit_of_mem_toDigits (by decide) (by decide) hmem) (by decide)

/-- No character of a text stays a line end between quotes. -/
lemma newline_not_mem_escaped (text : String) : '\n' ∉ (escaped text).toList := by
  rw [escaped, String.toList_ofList, List.mem_flatMap]
  rintro ⟨c, -, hc⟩
  rw [escapeQuoted] at hc
  split_ifs at hc with _ _ hnewline
  · exact absurd hc (by decide)
  · exact absurd hc (by decide)
  · exact absurd hc (by decide)
  · exact hnewline (beq_iff_eq.mpr (List.mem_singleton.mp hc).symm)

/-- The text of a line has a line end in it exactly when something unquoted brings it there. -/
lemma newline_not_mem_text_iff {line : Instruction}
    (hcall : ∀ symbol, line = .callFar symbol → '\n' ∉ symbol.toList) :
    '\n' ∉ line.text.toList ↔ ∀ text, line.unquoted? = some text → '\n' ∉ text.toList := by
  cases line with
  | callFar symbol =>
    have hsymbol := hcall symbol rfl
    simp [Instruction.text, Instruction.unquoted?, hsymbol, indent]
  | setSpriteMode mode => cases mode <;> simp [Instruction.text, Instruction.unquoted?, indent]
  | _ =>
    simp [Instruction.text, Instruction.unquoted?, newline_not_mem_decimal,
      newline_not_mem_escaped, indent]

/-! ## Code -/

mutual

/-- The unquoted texts in the lines of a step. -/
def stepUnquoted : Code → List String
  | .comment text => [text]
  | .spriteMode _ => []
  | .fadeIn _ => []
  | .call _ => []
  | .guarded _ _ body => codeUnquoted body
  | .event command _ branches => command :: (branches.map (·.1) ++ branchesUnquoted branches)

/-- The unquoted texts in the lines of a sequence of steps, in order. -/
def codeUnquoted : List Code → List String
  | [] => []
  | code :: rest => stepUnquoted code ++ codeUnquoted rest

/-- The unquoted texts in the bodies of branches. -/
def branchesUnquoted : List (String × List Code) → List String
  | [] => []
  | (_, body) :: rest => codeUnquoted body ++ branchesUnquoted rest

end

lemma codeUnquoted_append (code rest : List Code) :
    codeUnquoted (code ++ rest) = codeUnquoted code ++ codeUnquoted rest := by
  induction code with
  | nil => rfl
  | cons step code ih => rw [List.cons_append, codeUnquoted, codeUnquoted, ih, List.append_assoc]

lemma unquoted_eventBlock (command : String) (args : List String) :
    (eventBlock command args).filterMap Instruction.unquoted? = [command] := by
  simp [eventBlock, Instruction.unquoted?, List.filterMap_cons]

lemma unquoted_branchTable (first : Nat) (branches : List (String × List Code)) :
    (branchTable first branches).filterMap Instruction.unquoted? = branches.map (·.1) := by
  induction branches generalizing first with
  | nil => rfl
  | cons branch rest ih =>
    simpa [branchTable, Instruction.unquoted?, List.filterMap_cons] using ih (first + 1)

mutual

lemma unquoted_layoutStep : ∀ (drawn : Nat) (step : Code),
    (layoutStep drawn step).1.filterMap Instruction.unquoted? = stepUnquoted step
  | drawn, .guarded parameter value body => by
    simp [layoutStep, stepUnquoted, Instruction.unquoted?, List.filterMap_cons,
      unquoted_layout (drawn + 2) body]
  | drawn, .event command args [] => unquoted_eventBlock command args
  | drawn, .event command args (branch :: rest) => by
    simp only [layoutStep, stepUnquoted, List.filterMap_append, unquoted_eventBlock,
      unquoted_branchTable, unquoted_layoutBranches]
    simp [Instruction.unquoted?, List.filterMap_cons]
  | _, .comment _ => rfl
  | _, .spriteMode _ => rfl
  | _, .fadeIn _ => rfl
  | _, .call _ => rfl

lemma unquoted_layout : ∀ (drawn : Nat) (code : List Code),
    (layout drawn code).1.filterMap Instruction.unquoted? = codeUnquoted code
  | _, [] => rfl
  | drawn, step :: rest => by
    rw [layout, List.filterMap_append, unquoted_layoutStep drawn step, unquoted_layout _ rest,
      codeUnquoted]

lemma unquoted_layoutBranches :
    ∀ (final first drawn : Nat) (branches : List (String × List Code)),
      (layoutBranches final first drawn branches).1.filterMap Instruction.unquoted? =
        branchesUnquoted branches
  | _, _, _, [] => rfl
  | final, first, drawn, (name, body) :: rest => by
    simp [layoutBranches, branchesUnquoted, Instruction.unquoted?, List.filterMap_cons,
      unquoted_layout drawn body, unquoted_layoutBranches final (first + 1) _ rest]

end

/-! ## Listings -/

lemma unquoted_entityListing (code : List Code) :
    (entityListing code).filterMap Instruction.unquoted? = codeUnquoted code := by
  simp [entityListing, unquoted_layout, Instruction.unquoted?, List.filterMap_cons]

lemma unquoted_loopedListing (code : List Code) :
    (loopedListing code).filterMap Instruction.unquoted? = codeUnquoted code := by
  simp [loopedListing, unquoted_layout, Instruction.unquoted?, List.filterMap_cons]

lemma unquoted_sharedListing (code : List Code) :
    (sharedListing code).filterMap Instruction.unquoted? = codeUnquoted code := by
  simp [sharedListing, unquoted_layout, Instruction.unquoted?, List.filterMap_cons]

/-! ## Events -/

/-- The texts of an event that a listing shows as they are, without those of the events it
holds. -/
def Event.unquoted (event : Event) : List String :=
  match event.effect with
  | .context => [contextText event]
  | .engine => event.command :: event.branches.map (·.1)
  | _ => []

section

variable (scope : Scope) {call : Event → List Code}

lemma map_fst_branchesCode (branches : List (String × List Event)) :
    (branchesCode scope call branches).map (·.1) = branches.map (·.1) := by
  induction branches with
  | nil => rfl
  | cons branch rest ih => rw [branchesCode, List.map_cons, List.map_cons, ih]

mutual

lemma codeUnquoted_eventCode (hcall : ∀ event, codeUnquoted (call event) = []) :
    ∀ event, codeUnquoted (eventCode scope call event) =
      (eventLowered event).flatMap Event.unquoted
  | ⟨id, command, args, branches⟩ => by
    rw [eventCode, eventLowered]
    by_cases hidle : Event.effect ⟨id, command, args, branches⟩ = .idle
    · rw [hidle]
      split_ifs <;> simp [codeUnquoted, Event.unquoted, hidle]
    · rw [if_neg (ne_true_of_eq_false (Event.isDisabled_of_effect hidle))]
      cases heffect : Event.effect ⟨id, command, args, branches⟩ with
      | idle => exact absurd heffect hidle
      | guarded =>
        simp [codeUnquoted, stepUnquoted, Event.unquoted, heffect,
          codeUnquoted_namedCode hcall "true" branches]
      | engine =>
        simp [codeUnquoted, stepUnquoted, Event.unquoted, heffect, map_fst_branchesCode,
          codeUnquoted_branchesCode hcall branches]
      | call => simp [Event.unquoted, heffect, hcall]
      | _ => simp [codeUnquoted, stepUnquoted, Event.unquoted, heffect]

/-- The unquoted texts in the code of a script are those of the events that lowering goes
through. -/
lemma codeUnquoted_eventsCode (hcall : ∀ event, codeUnquoted (call event) = []) :
    ∀ events, codeUnquoted (eventsCode scope call events) =
      (scriptLowered events).flatMap Event.unquoted
  | [] => rfl
  | event :: rest => by
    rw [eventsCode, scriptLowered, codeUnquoted_append, List.flatMap_append,
      codeUnquoted_eventCode hcall event, codeUnquoted_eventsCode hcall rest]

lemma codeUnquoted_branchesCode (hcall : ∀ event, codeUnquoted (call event) = []) :
    ∀ branches, branchesUnquoted (branchesCode scope call branches) =
      (branchesLowered branches).flatMap Event.unquoted
  | [] => rfl
  | (_, body) :: rest => by
    rw [branchesCode, branchesLowered, branchesUnquoted, List.flatMap_append,
      codeUnquoted_eventsCode hcall body, codeUnquoted_branchesCode hcall rest]

lemma codeUnquoted_namedCode (hcall : ∀ event, codeUnquoted (call event) = [])
    (wanted : String) :
    ∀ branches, codeUnquoted (namedCode scope call wanted branches) =
      (namedLowered wanted branches).flatMap Event.unquoted
  | [] => rfl
  | (_, body) :: rest => by
    rw [namedCode, namedLowered]
    split_ifs
    · exact codeUnquoted_eventsCode hcall body
    · exact codeUnquoted_namedCode hcall wanted rest

end

end

/-- A call shows nothing of its own. -/
lemma codeUnquoted_resolvedCall (scope : Scope) (session : Session) (levels : Nat)
    (event : Event) : codeUnquoted (resolvedCall scope session levels event) = [] := by
  cases levels with
  | zero => rfl
  | succ levels =>
    rw [resolvedCall]
    cases calleeOf? scope.library event <;> rfl

end Cartridge.Script
