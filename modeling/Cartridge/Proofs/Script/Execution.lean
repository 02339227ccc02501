import Cartridge.Proofs.Script.Labels

/-!
# Running structured code

Structured code says by itself which lines it executes: a guarded part its body or nothing, an
event its block and then the body of the first branch whose decision is true.  `Code.trace` reads
this off without labels and jumps.  The main statement of this file is that the laid out lines do
the same: passing over the layout of code executes exactly the trace of the code, whatever stands
before and behind it in the listing, as long as no label is placed twice.
-/

namespace Cartridge.Script

open Machine

/-- The lines of an event that are executed: the command, then its arguments. -/
def eventLines (command : String) (args : List String) : List Instruction :=
  .event (args.length + 1) :: .string command :: args.map .string

mutual

/-- The lines that a step of code executes after `asked` decisions, and the number of decisions
asked for then. -/
def Code.trace (around : Surroundings) : Code → (asked : Nat) → List Instruction × Nat
  | .comment _, asked => ([], asked)
  | .spriteMode mode, asked => ([.setSpriteMode mode], asked)
  | .fadeIn speed, asked => ([.fadeIn speed], asked)
  | .call symbol, asked => ([.callFar symbol], asked)
  | .guarded parameter value body, asked =>
    if around.parameter parameter = value then codesTrace around body asked else ([], asked)
  | .event command args branches, asked =>
    let chosen := chosenTrace around branches asked
    (eventLines command args ++ chosen.1, chosen.2)

/-- The lines that a sequence of steps executes. -/
def codesTrace (around : Surroundings) : List Code → (asked : Nat) → List Instruction × Nat
  | [], asked => ([], asked)
  | code :: rest, asked =>
    let first := code.trace around asked
    let others := codesTrace around rest first.2
    (first.1 ++ others.1, others.2)

/-- The lines of the first branch whose decision is true; none when all are false. -/
def chosenTrace (around : Surroundings) :
    List (String × List Code) → (asked : Nat) → List Instruction × Nat
  | [], asked => ([], asked)
  | (_, body) :: rest, asked =>
    if around.decision asked then codesTrace around body (asked + 1)
    else chosenTrace around rest (asked + 1)

end

/-! ## The layout runs the trace -/

/-- The first place of a label is known once the listing is split there. -/
lemma linesAfter_of_eq {listing : List Instruction} (hnodup : (placed listing).Nodup)
    {before after : List Instruction} {label : Nat}
    (h : listing = before ++ .label label :: after) : linesAfter label listing = some after := by
  subst h
  exact linesAfter_of_nodup hnodup

lemma isPlain_of_mem_eventLines {command : String} {args : List String} :
    ∀ line ∈ eventLines command args, IsPlain line := by
  simp [eventLines, IsPlain]

/-- An event's own lines are executed; the remark in front of them is not. -/
lemma reaches_eventBlock {around : Surroundings} {listing rest executed : List Instruction}
    {asked : Nat} (command : String) (args : List String) :
    Reaches around listing ⟨eventBlock command args ++ rest, asked, executed⟩
      ⟨rest, asked, executed ++ eventLines command args⟩ :=
  (reaches_comment command).trans (reaches_plains isPlain_of_mem_eventLines)

mutual

variable {listing : List Instruction}

lemma reaches_layoutStep (around : Surroundings) (hnodup : (placed listing).Nodup) (drawn : Nat) :
    ∀ (code : Code) (before after : List Instruction) (asked : Nat) (executed : List Instruction),
      listing = before ++ (layoutStep drawn code).1 ++ after →
      Reaches around listing ⟨(layoutStep drawn code).1 ++ after, asked, executed⟩
        ⟨after, (code.trace around asked).2, executed ++ (code.trace around asked).1⟩
  | .comment text, _, after, asked, executed, _ => by
    rw [layoutStep, Code.trace, List.append_nil]
    exact reaches_comment text
  | .spriteMode mode, _, after, asked, executed, _ => reaches_plain trivial
  | .fadeIn speed, _, after, asked, executed, _ => reaches_plain trivial
  | .call symbol, _, after, asked, executed, _ => reaches_plain trivial
  | .guarded parameter value body, before, after, asked, executed, h => by
    rw [layoutStep] at h ⊢
    rw [Code.trace]
    simp only [List.append_assoc, List.cons_append, List.nil_append] at h ⊢
    by_cases hvalue : around.parameter parameter = value
    · -- the guard holds: to the label of the body, over the body, past the label of the end
      rw [if_pos hvalue]
      have hplace : listing = (before ++ [.jumpIfParameter parameter value (drawn + 1),
          .jump (drawn + 2)]) ++ .label (drawn + 1) ::
            ((layout (drawn + 2) body).1 ++ .label (drawn + 2) :: after) := by
        simp [h]
      have hbody : listing = (before ++ [.jumpIfParameter parameter value (drawn + 1),
          .jump (drawn + 2), .label (drawn + 1)]) ++ (layout (drawn + 2) body).1 ++
            .label (drawn + 2) :: after := by
        simp [h]
      exact ((reaches_jumpIfParameter hvalue (linesAfter_of_eq hnodup hplace)).trans
        (reaches_layout around hnodup (drawn + 2) body _ _ asked executed hbody)).trans
          (reaches_label _)
    · rw [if_neg hvalue, List.append_nil]
      have hplace : listing = (before ++ [.jumpIfParameter parameter value (drawn + 1),
          .jump (drawn + 2), .label (drawn + 1)] ++ (layout (drawn + 2) body).1) ++
            .label (drawn + 2) :: after := by
        simp [h]
      exact (reaches_past_jumpIfParameter hvalue).trans
        (reaches_jump (linesAfter_of_eq hnodup hplace))
  | .event command args [], _, after, asked, executed, _ => by
    rw [layoutStep, Code.trace, chosenTrace, List.append_nil]
    exact reaches_eventBlock command args
  | .event command args (branch :: rest), before, after, asked, executed, h => by
    rw [layoutStep] at h ⊢
    rw [Code.trace]
    -- the whole event: its block, the table of branches, the jump over the bodies, the bodies
    set bodies := (layoutBranches (drawn + 1) (drawn + 2) (drawn + 1 + (rest.length + 1))
      (branch :: rest)).1 with hbodies
    simp only [List.append_assoc, List.cons_append, List.nil_append] at h ⊢
    have hplace : listing = (before ++ (eventBlock command args ++
        (branchTable (drawn + 2) (branch :: rest) ++ .jump (drawn + 1) :: bodies))) ++
          .label (drawn + 1) :: after := by
      simp [h]
    have hsplit : listing = (before ++ (eventBlock command args ++
        (branchTable (drawn + 2) (branch :: rest) ++ [.jump (drawn + 1)]))) ++ bodies ++
          .label (drawn + 1) :: after := by
      simp [h]
    rw [← List.append_assoc executed]
    exact (reaches_eventBlock command args).trans
      (reaches_layoutBranches around hnodup (drawn + 1) (drawn + 2) _ (branch :: rest) _ _ _ after
        asked (executed ++ eventLines command args) hsplit (linesAfter_of_eq hnodup hplace))

lemma reaches_layout (around : Surroundings) (hnodup : (placed listing).Nodup) (drawn : Nat) :
    ∀ (code : List Code) (before after : List Instruction) (asked : Nat)
      (executed : List Instruction), listing = before ++ (layout drawn code).1 ++ after →
      Reaches around listing ⟨(layout drawn code).1 ++ after, asked, executed⟩
        ⟨after, (codesTrace around code asked).2,
          executed ++ (codesTrace around code asked).1⟩
  | [], _, after, asked, executed, _ => by
    rw [layout, codesTrace, List.nil_append, List.append_nil]
    exact Relation.ReflTransGen.refl
  | code :: rest, before, after, asked, executed, h => by
    rw [layout] at h ⊢
    rw [codesTrace]
    set others := (layout (layoutStep drawn code).2 rest).1 with hothers
    simp only [List.append_assoc] at h ⊢
    have hfirst : listing = before ++ (layoutStep drawn code).1 ++ (others ++ after) := by
      simp [h]
    have hrest : listing = (before ++ (layoutStep drawn code).1) ++ others ++ after := by
      simp [h]
    rw [← List.append_assoc executed]
    exact (reaches_layoutStep around hnodup drawn code _ _ asked executed hfirst).trans
      (reaches_layout around hnodup (layoutStep drawn code).2 rest _ after _ _ hrest)

/-- The table of branches leads over the body of the chosen branch, if there is one, to the end of
the event. -/
lemma reaches_layoutBranches (around : Surroundings) (hnodup : (placed listing).Nodup)
    (final first drawn : Nat) :
    ∀ (branches : List (String × List Code)) (before behind rest after : List Instruction)
      (asked : Nat) (executed : List Instruction),
      listing = before ++ (layoutBranches final first drawn branches).1 ++ behind →
      linesAfter final listing = some after →
      Reaches around listing ⟨branchTable first branches ++ .jump final :: rest, asked, executed⟩
        ⟨after, (chosenTrace around branches asked).2,
          executed ++ (chosenTrace around branches asked).1⟩
  | [], _, _, rest, after, asked, executed, _, hfinal => by
    rw [branchTable, chosenTrace, List.nil_append, List.append_nil]
    exact reaches_jump hfinal
  | (name, body) :: others, before, behind, rest, after, asked, executed, h, hfinal => by
    rw [layoutBranches] at h
    rw [branchTable, chosenTrace]
    simp only [List.append_assoc, List.cons_append] at h ⊢
    cases hdecision : around.decision asked with
    | true =>
      rw [if_pos rfl]
      have hbody : listing = (before ++ [.label first]) ++ (layout drawn body).1 ++
          .jump final :: ((layoutBranches final (first + 1) (layout drawn body).2 others).1 ++
            behind) := by
        simp [h]
      exact ((reaches_branch hdecision (linesAfter_of_eq hnodup h)).trans
        (reaches_layout around hnodup drawn body _ _ (asked + 1) executed hbody)).trans
          (reaches_jump hfinal)
    | false =>
      rw [if_neg (by simp)]
      have hothers : listing = (before ++ .label first :: ((layout drawn body).1 ++
          [.jump final])) ++ (layoutBranches final (first + 1) (layout drawn body).2 others).1 ++
            behind := by
        simp [h]
      exact (reaches_past_branch hdecision).trans
        (reaches_layoutBranches around hnodup final (first + 1) (layout drawn body).2 others _ _
          rest after (asked + 1) executed hothers hfinal)

end

end Cartridge.Script
