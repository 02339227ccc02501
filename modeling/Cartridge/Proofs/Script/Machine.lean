import Mathlib.Logic.Relation
import Mathlib.Tactic.Lemma
import Cartridge.Script.Listing

/-!
# Running a listing

A listing is run line by line.  Labels and comments do nothing, jumps go on behind the label they
name, and every other line is executed.  Two kinds of lines ask the outside: a jump on a
parameter asks for the parameter's value, and a branch asks for the next decision.  A run ends at
a line that stops the script or returns from it.

The machine keeps the lines ahead of it rather than a position, so a statement about a piece of a
listing quantifies over what follows the piece.  A jump finds its label in the whole listing: the
first place of the label counts, and `linesAfter_of_nodup` says that it is the only one when each
label is placed once.
-/

namespace Cartridge.Script

/-- What a run asks the outside for. -/
structure Surroundings where
  /-- The value of each parameter. -/
  parameter : Nat → Nat
  /-- The answers to the branch decisions, in the order in which they are asked for. -/
  decision : Nat → Bool

namespace Machine

/-- The machine between two lines. -/
structure State where
  /-- The lines ahead, the next one first. -/
  ahead : List Instruction
  /-- The number of decisions asked for so far. -/
  asked : Nat
  /-- The lines executed so far. -/
  executed : List Instruction

/-- The lines behind the first place of a label. -/
def linesAfter (label : Nat) : List Instruction → Option (List Instruction)
  | [] => none
  | line :: rest => if line = .label label then some rest else linesAfter label rest

/-- Goes on behind a label. -/
def State.goto (s : State) (listing : List Instruction) (label : Nat) : Option State :=
  (linesAfter label listing).map fun lines => { s with ahead := lines }

/-- Runs the next line.  There is no next state at the end of the script, and none when the lines
run out or a label is missing. -/
def step (around : Surroundings) (listing : List Instruction) (s : State) : Option State :=
  match s.ahead with
  | [] => none
  | .stop :: _ => none
  | .returnFar :: _ => none
  | .label _ :: rest => some { s with ahead := rest }
  | .comment _ :: rest => some { s with ahead := rest }
  | .jump target :: _ => s.goto listing target
  | .jumpIfParameter parameter value target :: rest =>
    if around.parameter parameter = value then s.goto listing target
    else some { s with ahead := rest }
  | .branch target _ :: rest =>
    if around.decision s.asked then { s with asked := s.asked + 1 }.goto listing target
    else some { s with ahead := rest, asked := s.asked + 1 }
  | line :: rest => some { s with ahead := rest, executed := s.executed ++ [line] }

/-- Some number of steps leads from one state to another. -/
def Reaches (around : Surroundings) (listing : List Instruction) : State → State → Prop :=
  Relation.ReflTransGen fun s t => step around listing s = some t

/-- The state before the first line. -/
def start (listing : List Instruction) : State := ⟨listing, 0, []⟩

/-- A run from the first line arrives at `final`, the last line of the listing, which ends the
script, and has executed exactly the given lines until then. -/
def RunsTo (around : Surroundings) (listing : List Instruction) (final : Instruction)
    (executed : List Instruction) : Prop :=
  ∃ asked, Reaches around listing (start listing) ⟨[final], asked, executed⟩ ∧
    step around listing ⟨[final], asked, executed⟩ = none

/-! ## Runs are determined -/

/-- From a state that leads to two others, the one that has no next state is the later one. -/
lemma Reaches.of_halted {around : Surroundings} {listing : List Instruction} {s t u : State}
    (ht : Reaches around listing s t) (hu : Reaches around listing s u)
    (hhalt : step around listing u = none) : Reaches around listing t u := by
  induction ht using Relation.ReflTransGen.head_induction_on with
  | refl => exact hu
  | head hstep _ ih =>
    rcases Relation.ReflTransGen.cases_head hu with rfl | ⟨v, hv, hvu⟩
    · rw [hhalt] at hstep
      exact absurd hstep (by simp)
    · obtain rfl : _ = v := Option.some.inj (hstep.symm.trans hv)
      exact ih hvu

/-- A run has one end and executes one list of lines. -/
lemma RunsTo.unique {around : Surroundings} {listing : List Instruction}
    {final final' : Instruction} {executed executed' : List Instruction}
    (h : RunsTo around listing final executed) (h' : RunsTo around listing final' executed') :
    final = final' ∧ executed = executed' := by
  obtain ⟨asked, hreach, hhalt⟩ := h
  obtain ⟨asked', hreach', hhalt'⟩ := h'
  have hlater := hreach.of_halted hreach' hhalt'
  rcases Relation.ReflTransGen.cases_head hlater with heq | ⟨v, hv, _⟩
  · cases heq
    exact ⟨rfl, rfl⟩
  · rw [hhalt] at hv
    exact absurd hv (by simp)

/-! ## Finding labels -/

/-- The labels placed in a listing, in order. -/
def placed (listing : List Instruction) : List Nat :=
  listing.filterMap fun
    | .label n => some n
    | _ => none

@[simp] lemma placed_nil : placed [] = [] := rfl

@[simp] lemma placed_append (first second : List Instruction) :
    placed (first ++ second) = placed first ++ placed second := by
  simp [placed]

@[simp] lemma placed_cons_label (n : Nat) (rest : List Instruction) :
    placed (.label n :: rest) = n :: placed rest := rfl

/-- Lines that place no label leave the placed labels alone. -/
lemma placed_cons_of_ne {line : Instruction} (hline : ∀ n, line ≠ .label n)
    (rest : List Instruction) : placed (line :: rest) = placed rest := by
  cases line with
  | label n => exact absurd rfl (hline n)
  | _ => rfl

lemma linesAfter_append_of_not_mem {label : Nat} {before : List Instruction}
    (h : label ∉ placed before) (after : List Instruction) :
    linesAfter label (before ++ .label label :: after) = some after := by
  induction before with
  | nil => simp [linesAfter]
  | cons line rest ih =>
    have hne : line ≠ .label label := by
      rintro rfl
      exact h (by simp)
    have hrest : label ∉ placed rest := by
      intro hmem
      apply h
      rw [← List.singleton_append, placed_append]
      exact List.mem_append_right _ hmem
    rw [List.cons_append, linesAfter, if_neg hne]
    exact ih hrest

/-- A label that is placed once is found where it is placed. -/
lemma linesAfter_of_nodup {label : Nat} {before after : List Instruction}
    (h : (placed (before ++ .label label :: after)).Nodup) :
    linesAfter label (before ++ .label label :: after) = some after := by
  apply linesAfter_append_of_not_mem
  intro hmem
  rw [placed_append, placed_cons_label] at h
  exact (List.nodup_append.mp h).2.2 label hmem label (by simp) rfl

/-! ## What single lines do -/

section Lines

variable {around : Surroundings} {listing : List Instruction} {rest : List Instruction}
  {asked : Nat} {executed : List Instruction}

/-- A line that the machine executes and nothing more: no label, comment, jump or end. -/
def IsPlain : Instruction → Prop
  | .setSpriteMode _ | .fadeIn _ | .callFar _ | .event _ | .string _ | .idle => True
  | _ => False

lemma reaches_plain {line : Instruction} (h : IsPlain line) :
    Reaches around listing ⟨line :: rest, asked, executed⟩
      ⟨rest, asked, executed ++ [line]⟩ := by
  apply Relation.ReflTransGen.single
  cases line <;> first | rfl | exact h.elim

/-- A block of plain lines is executed as it stands. -/
lemma reaches_plains {block : List Instruction} (h : ∀ line ∈ block, IsPlain line) :
    Reaches around listing ⟨block ++ rest, asked, executed⟩
      ⟨rest, asked, executed ++ block⟩ := by
  induction block generalizing executed with
  | nil =>
    rw [List.nil_append, List.append_nil]
    exact Relation.ReflTransGen.refl
  | cons line block ih =>
    have hfirst : Reaches around listing ⟨line :: (block ++ rest), asked, executed⟩
        ⟨block ++ rest, asked, executed ++ [line]⟩ := reaches_plain (h line (by simp))
    have hothers : Reaches around listing ⟨block ++ rest, asked, executed ++ [line]⟩
        ⟨rest, asked, executed ++ line :: block⟩ := by
      rw [List.append_cons executed line block]
      exact ih fun l hl => h l (by simp [hl])
    exact hfirst.trans hothers

lemma reaches_comment (text : String) :
    Reaches around listing ⟨.comment text :: rest, asked, executed⟩ ⟨rest, asked, executed⟩ :=
  Relation.ReflTransGen.single rfl

lemma reaches_label (n : Nat) :
    Reaches around listing ⟨.label n :: rest, asked, executed⟩ ⟨rest, asked, executed⟩ :=
  Relation.ReflTransGen.single rfl

variable {target : Nat} {after : List Instruction}

lemma reaches_jump (h : linesAfter target listing = some after) :
    Reaches around listing ⟨.jump target :: rest, asked, executed⟩ ⟨after, asked, executed⟩ := by
  apply Relation.ReflTransGen.single
  simp [step, State.goto, h]

lemma reaches_jumpIfParameter {parameter value : Nat} (hvalue : around.parameter parameter = value)
    (h : linesAfter target listing = some after) :
    Reaches around listing ⟨.jumpIfParameter parameter value target :: rest, asked, executed⟩
      ⟨after, asked, executed⟩ := by
  apply Relation.ReflTransGen.single
  simp [step, State.goto, h, hvalue]

lemma reaches_past_jumpIfParameter {parameter value : Nat}
    (hvalue : around.parameter parameter ≠ value) :
    Reaches around listing ⟨.jumpIfParameter parameter value target :: rest, asked, executed⟩
      ⟨rest, asked, executed⟩ := by
  apply Relation.ReflTransGen.single
  simp [step, hvalue]

lemma reaches_branch {name : String} (hyes : around.decision asked = true)
    (h : linesAfter target listing = some after) :
    Reaches around listing ⟨.branch target name :: rest, asked, executed⟩
      ⟨after, asked + 1, executed⟩ := by
  apply Relation.ReflTransGen.single
  simp [step, State.goto, h, hyes]

lemma reaches_past_branch {name : String} (hno : around.decision asked = false) :
    Reaches around listing ⟨.branch target name :: rest, asked, executed⟩
      ⟨rest, asked + 1, executed⟩ := by
  apply Relation.ReflTransGen.single
  simp [step, hno]

end Lines

end Machine

end Cartridge.Script
