import Mathlib.Tactic.Common
import Cartridge.Proofs.Script.Resolution

/-!
# Listings up to the names in their calls

The names that calls are given change nothing else in a listing.  An outline is a listing with the
targets of its calls left open, and filling in names gives the listing back (`Line.fill`).  The
main statement of this file, `outlined_eventsCode`, is that all listings of a script have one
outline, whatever its calls are named, and that the targets in it are those of the calls that
lowering meets, in order.
-/

namespace Cartridge.Script

/-- The symbol that a line calls. -/
def Instruction.farCall? : Instruction → Option String
  | .callFar symbol => some symbol
  | _ => none

/-- A line of an outline. -/
inductive Line (α : Type)
  /-- A line that is no call. -/
  | plain (line : Instruction) (h : line.farCall? = none)
  | call (target : α)

variable {α : Type}

namespace Line

/-- What a line calls. -/
def target? : Line α → Option α
  | plain _ _ => none
  | call target => some target

/-- The line of a listing, where `name` gives the symbols of the targets. -/
def fill (name : α → String) : Line α → Instruction
  | plain line _ => line
  | call target => .callFar (name target)

/-- Changes the target of a line. -/
def map {β : Type} (f : α → β) : Line α → Line β
  | plain line h => plain line h
  | call target => call (f target)

@[simp] lemma target?_plain (line : Instruction) (h : line.farCall? = none) :
    (plain line h : Line α).target? = none := rfl

@[simp] lemma target?_call (target : α) : (call target).target? = some target := rfl

@[simp] lemma fill_plain (name : α → String) (line : Instruction) (h : line.farCall? = none) :
    fill name (plain line h) = line := rfl

@[simp] lemma fill_call (name : α → String) (target : α) :
    fill name (call target) = .callFar (name target) := rfl

lemma targets_map {β : Type} (f : α → β) (lines : List (Line α)) :
    (lines.map (map f)).filterMap target? = (lines.filterMap target?).map f := by
  have htarget : target? ∘ map f = fun line : Line α => line.target?.map f := by
    funext line
    cases line <;> rfl
  rw [List.filterMap_map, List.map_filterMap, htarget]

/-- The symbols that a listing calls are those of the targets in its outline. -/
lemma farCalls_fill (name : α → String) (lines : List (Line α)) :
    (lines.map (fill name)).filterMap Instruction.farCall? =
      (lines.filterMap target?).map name := by
  induction lines with
  | nil => rfl
  | cons line rest ih =>
    cases line with
    | plain line h => simp [List.filterMap_cons, h, ih]
    | call target => simp [Instruction.farCall?, ih]

/-- Names that agree on the targets fill an outline in the same way. -/
lemma fill_congr {name name' : α → String} {lines : List (Line α)}
    (h : ∀ target ∈ lines.filterMap target?, name target = name' target) :
    lines.map (fill name) = lines.map (fill name') := by
  apply List.map_congr_left
  intro line hline
  cases line with
  | plain line _ => rfl
  | call target =>
    rw [fill_call, fill_call, h target (List.mem_filterMap.mpr ⟨_, hline, rfl⟩)]

end Line

/-! ## Outlines -/

/-- The listings for all ways to name the targets have one outline. -/
def HasOutline (listing : (α → String) → List Instruction) (targets : List α) : Prop :=
  ∃ lines : List (Line α), lines.filterMap Line.target? = targets ∧
    ∀ name, listing name = lines.map (Line.fill name)

namespace HasOutline

/-- Lines without calls are their own outline. -/
lemma plain {lines : List Instruction} (h : ∀ line ∈ lines, line.farCall? = none) :
    HasOutline (fun _ : α → String => lines) [] := by
  induction lines with
  | nil => exact ⟨[], rfl, fun _ => rfl⟩
  | cons line rest ih =>
    obtain ⟨outline, htargets, hfill⟩ := ih fun l hl => h l (List.mem_cons_of_mem _ hl)
    refine ⟨.plain line (h line List.mem_cons_self) :: outline, by simpa using htargets, ?_⟩
    intro name
    rw [List.map_cons, ← hfill name, Line.fill_plain]

lemma call (target : α) : HasOutline (fun name => [.callFar (name target)]) [target] :=
  ⟨[.call target], rfl, fun _ => rfl⟩

lemma append {f g : (α → String) → List Instruction} {targets targets' : List α}
    (h : HasOutline f targets) (h' : HasOutline g targets') :
    HasOutline (fun name => f name ++ g name) (targets ++ targets') := by
  obtain ⟨lines, rfl, hlines⟩ := h
  obtain ⟨lines', rfl, hlines'⟩ := h'
  refine ⟨lines ++ lines', List.filterMap_append, fun name => ?_⟩
  rw [List.map_append, ← hlines name, ← hlines' name]

/-- Lines without calls may stand on both sides of an outline. -/
lemma surround {f : (α → String) → List Instruction} {targets : List α} (h : HasOutline f targets)
    (before after : List Instruction) (hbefore : ∀ line ∈ before, line.farCall? = none)
    (hafter : ∀ line ∈ after, line.farCall? = none) :
    HasOutline (fun name => before ++ f name ++ after) targets := by
  have hall := ((plain hbefore).append h).append (plain hafter)
  rw [List.nil_append, List.append_nil] at hall
  exact hall

end HasOutline

/-! ## Code -/

/-- The names of the calls change neither the labels that code draws nor the outline of its
layout. -/
def Outlined (code : (α → String) → List Code) (targets : List α) : Prop :=
  ∀ drawn, ∃ labels, (∀ name, (layout drawn (code name)).2 = labels) ∧
    HasOutline (fun name => (layout drawn (code name)).1) targets

/-- The same for branches; their names do not depend on the calls either. -/
def OutlinedBranches (branches : (α → String) → List (String × List Code)) (targets : List α) :
    Prop :=
  ∀ final first drawn, ∃ labels,
    (∀ name, (layoutBranches final first drawn (branches name)).2 = labels) ∧
      HasOutline (fun name => (layoutBranches final first drawn (branches name)).1) targets

lemma layout_append (drawn : Nat) (code rest : List Code) :
    layout drawn (code ++ rest) =
      ((layout drawn code).1 ++ (layout (layout drawn code).2 rest).1,
        (layout (layout drawn code).2 rest).2) := by
  induction code generalizing drawn with
  | nil => rfl
  | cons step code ih => simp [layout, ih]

lemma layout_singleton (drawn : Nat) (step : Code) :
    layout drawn [step] = layoutStep drawn step := by
  simp [layout]

lemma farCall?_eventBlock {command : String} {args : List String} :
    ∀ line ∈ eventBlock command args, line.farCall? = none := by
  simp [eventBlock, Instruction.farCall?]

lemma farCall?_branchTable {first : Nat} {branches : List (String × List Code)} :
    ∀ line ∈ branchTable first branches, line.farCall? = none := by
  induction branches generalizing first with
  | nil => simp [branchTable]
  | cons branch rest ih =>
    obtain ⟨name, body⟩ := branch
    rw [branchTable, List.forall_mem_cons]
    exact ⟨rfl, ih⟩

namespace Outlined

lemma nil : Outlined (fun _ : α → String => []) [] :=
  fun drawn => ⟨drawn, fun _ => rfl, .plain (by simp [layout])⟩

/-- A step without names, whose lines are no calls. -/
lemma plain {step : Code} (hlabels : ∀ drawn, (layoutStep drawn step).2 = drawn)
    (hlines : ∀ drawn, ∀ line ∈ (layoutStep drawn step).1, line.farCall? = none) :
    Outlined (fun _ : α → String => [step]) [] := by
  intro drawn
  simp only [layout_singleton]
  exact ⟨drawn, fun _ => hlabels drawn, .plain (hlines drawn)⟩

lemma call (target : α) : Outlined (fun name => [.call (name target)]) [target] :=
  fun drawn => ⟨drawn, fun _ => rfl, .call target⟩

lemma append {f g : (α → String) → List Code} {targets targets' : List α} (h : Outlined f targets)
    (h' : Outlined g targets') : Outlined (fun name => f name ++ g name) (targets ++ targets') := by
  intro drawn
  obtain ⟨middle, hmiddle, hfirst⟩ := h drawn
  obtain ⟨labels, hlabels, hsecond⟩ := h' middle
  simp only [layout_append, hmiddle]
  exact ⟨labels, hlabels, hfirst.append hsecond⟩

lemma guarded {body : (α → String) → List Code} {targets : List α} (h : Outlined body targets)
    (parameter value : Nat) :
    Outlined (fun name => [.guarded parameter value (body name)]) targets := by
  intro drawn
  obtain ⟨labels, hlabels, hbody⟩ := h (drawn + 2)
  simp only [layout_singleton, layoutStep]
  exact ⟨labels, hlabels, hbody.surround _ _ (by simp [Instruction.farCall?])
    (by simp [Instruction.farCall?])⟩

/-- An event with branches; the table in front of the bodies is the same for all names. -/
lemma branching {branches : (α → String) → List (String × List Code)} {targets : List α}
    (h : OutlinedBranches branches targets) {size : Nat} (hsize : ∀ name, (branches name).length =
      size + 1) (htable : ∀ first name name', branchTable first (branches name) =
        branchTable first (branches name')) (command : String) (args : List String) :
    Outlined (fun name => [.event command args (branches name)]) targets := by
  intro drawn
  obtain ⟨labels, hlabels, hbodies⟩ := h (drawn + 1) (drawn + 2) (drawn + 1 + (size + 1))
  have hstep : ∀ name, layoutStep drawn (.event command args (branches name)) =
      (eventBlock command args ++ branchTable (drawn + 2) (branches fun _ => "") ++
        [.jump (drawn + 1)] ++
          (layoutBranches (drawn + 1) (drawn + 2) (drawn + 1 + (size + 1)) (branches name)).1 ++
        [.label (drawn + 1)], labels) := by
    intro name
    rw [htable _ (fun _ => "") name, ← hlabels name, ← hsize name]
    cases hcons : branches name with
    | nil =>
      have hlength := hsize name
      rw [hcons] at hlength
      exact absurd hlength (by simp)
    | cons branch rest => rfl
  simp only [layout_singleton, hstep]
  refine ⟨labels, fun _ => rfl, hbodies.surround _ _ ?_ (by simp [Instruction.farCall?])⟩
  simp only [List.mem_append, List.mem_singleton]
  rintro line ((hline | hline) | rfl)
  · exact farCall?_eventBlock line hline
  · exact farCall?_branchTable line hline
  · rfl

/-! ### Listings -/

lemma entityListing {code : (α → String) → List Code} {targets : List α}
    (h : Outlined code targets) :
    HasOutline (fun name => Script.entityListing (code name)) targets := by
  obtain ⟨_, -, hcode⟩ := h 0
  exact hcode.surround [] [.stop] (by simp) (by simp [Instruction.farCall?])

lemma loopedListing {code : (α → String) → List Code} {targets : List α}
    (h : Outlined code targets) :
    HasOutline (fun name => Script.loopedListing (code name)) targets := by
  obtain ⟨_, -, hcode⟩ := h 1
  exact hcode.surround [.label 1] [.idle, .jump 1, .stop] (by simp [Instruction.farCall?])
    (by simp [Instruction.farCall?])

lemma sharedListing {code : (α → String) → List Code} {targets : List α}
    (h : Outlined code targets) (remark : String) :
    HasOutline (fun name => Script.sharedListing (.comment remark :: code name)) targets := by
  obtain ⟨_, -, hcode⟩ := h 0
  exact hcode.surround [.comment remark] [.returnFar] (by simp [Instruction.farCall?])
    (by simp [Instruction.farCall?])

end Outlined

namespace OutlinedBranches

lemma nil : OutlinedBranches (fun _ : α → String => []) [] :=
  fun _ _ drawn => ⟨drawn, fun _ => rfl, .plain (by simp [layoutBranches])⟩

lemma cons {body : (α → String) → List Code} {branches : (α → String) → List (String × List Code)}
    {targets targets' : List α} (h : Outlined body targets)
    (h' : OutlinedBranches branches targets') (label : String) :
    OutlinedBranches (fun name => (label, body name) :: branches name) (targets ++ targets') := by
  intro final first drawn
  obtain ⟨middle, hmiddle, hbody⟩ := h drawn
  obtain ⟨labels, hlabels, hrest⟩ := h' final (first + 1) middle
  simp only [layoutBranches, hmiddle]
  refine ⟨labels, hlabels, ?_⟩
  have hhead : HasOutline (fun name => [.label first] ++ (layout drawn (body name)).1 ++
      [.jump final]) targets :=
    hbody.surround _ _ (by simp [Instruction.farCall?]) (by simp [Instruction.farCall?])
  simpa using hhead.append hrest

end OutlinedBranches

/-! ## Scripts -/

/-- The code of a call, where `target?` gives what an event calls and `name` its symbol. -/
def namedCall (target? : Event → Option α) (name : α → String) (event : Event) : List Code :=
  match target? event with
  | none => []
  | some target => [.call (name target)]

section

variable (scope : Scope) (target? : Event → Option α)

lemma length_branchesCode (call : Event → List Code) (branches : List (String × List Event)) :
    (branchesCode scope call branches).length = branches.length := by
  induction branches with
  | nil => rfl
  | cons branch rest ih => simp [branchesCode, ih]

lemma branchTable_branchesCode (call call' : Event → List Code) (first : Nat)
    (branches : List (String × List Event)) :
    branchTable first (branchesCode scope call branches) =
      branchTable first (branchesCode scope call' branches) := by
  induction branches generalizing first with
  | nil => rfl
  | cons branch rest ih => simp [branchesCode, branchTable, ih (first + 1)]

mutual

lemma outlined_eventCode :
    ∀ event, Outlined (fun name => eventCode scope (namedCall target? name) event)
      ((eventCalls event).filterMap target?)
  | ⟨id, command, args, branches⟩ => by
    simp only [eventCode, eventCalls]
    cases heffect : Event.effect ⟨id, command, args, branches⟩ with
    | idle => exact .nil
    | context => exact .plain (fun _ => rfl) (by simp [layoutStep, Instruction.farCall?])
    | spriteMode => exact .plain (fun _ => rfl) (by simp [layoutStep, Instruction.farCall?])
    | fadeIn => exact .plain (fun _ => rfl) (by simp [layoutStep, Instruction.farCall?])
    | guarded => exact (outlined_namedCode "true" branches).guarded _ _
    | call =>
      simp only [namedCall]
      cases htarget : target? ⟨id, command, args, branches⟩ with
      | none => simpa [htarget] using Outlined.nil
      | some target => simpa [htarget] using Outlined.call target
    | engine =>
      cases branches with
      | nil =>
        simp only [branchesCode]
        exact .plain (fun _ => rfl) fun _ => farCall?_eventBlock
      | cons branch rest =>
        exact Outlined.branching (outlined_branchesCode (branch :: rest))
          (fun name => length_branchesCode scope _ (branch :: rest))
          (fun first _ _ => branchTable_branchesCode scope _ _ first _) _ _

lemma outlined_eventsCode :
    ∀ events, Outlined (fun name => eventsCode scope (namedCall target? name) events)
      ((scriptCalls events).filterMap target?)
  | [] => .nil
  | event :: rest => by
    simp only [eventsCode, scriptCalls, List.filterMap_append]
    exact (outlined_eventCode event).append (outlined_eventsCode rest)

lemma outlined_branchesCode :
    ∀ branches, OutlinedBranches (fun name => branchesCode scope (namedCall target? name) branches)
      ((branchesCalls branches).filterMap target?)
  | [] => .nil
  | (label, body) :: rest => by
    simp only [branchesCode, branchesCalls, List.filterMap_append]
    exact .cons (outlined_eventsCode body) (outlined_branchesCode rest) label

lemma outlined_namedCode (wanted : String) :
    ∀ branches, Outlined (fun name => namedCode scope (namedCall target? name) wanted branches)
      ((namedCalls wanted branches).filterMap target?)
  | [] => .nil
  | (label, body) :: rest => by
    simp only [namedCode, namedCalls]
    split_ifs with hlabel
    · exact outlined_eventsCode body
    · exact outlined_namedCode wanted rest

end

end

end Cartridge.Script
