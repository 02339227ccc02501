import Cartridge.Proofs.Script.Placeholders

/-!
# What a walk visits and what lowering meets

A walk and lowering go through the same scripts, each in its own way.  `scriptLowered` lists the
events of a script that lowering goes through, and `scriptMet` those of them whose arguments it
reads: the ones it hands to the engine and the calls.  A walk visits everything that is lowered
(`mem_visitEvents_of_mem_scriptLowered`), and behind a call that it visits with a level left it
visits the body of the call too (`walkFrom_subset_of_visit`).

The two bind the body of a call in different ways: a walk with all arguments of the call, lowering
without the reserved ones.  The bodies are equal when the custom event is open
(`bodyOf?_of_calleeOf?`).
-/

namespace Cartridge.Script

open Cartridge.Project (CustomEvent)

/-! ## What lowering meets -/

mutual

/-- The events inside an event whose arguments lowering reads. -/
def eventMet : Event → List Event
  | ⟨id, command, args, branches⟩ =>
    let event : Event := ⟨id, command, args, branches⟩
    match event.effect with
    | .guarded => namedMet "true" branches
    | .call => [event]
    | .engine => event :: branchesMet branches
    | _ => []

/-- The events of a script whose arguments lowering reads, in order. -/
def scriptMet : List Event → List Event
  | [] => []
  | event :: rest => eventMet event ++ scriptMet rest

/-- The same for all branches. -/
def branchesMet : List (String × List Event) → List Event
  | [] => []
  | (_, body) :: rest => scriptMet body ++ branchesMet rest

/-- The same for the branch with a name. -/
def namedMet (wanted : String) : List (String × List Event) → List Event
  | [] => []
  | (name, body) :: rest => if name = wanted then scriptMet body else namedMet wanted rest

end

lemma mem_scriptMet {events : List Event} {event : Event} :
    event ∈ scriptMet events ↔ ∃ outer ∈ events, event ∈ eventMet outer := by
  induction events with
  | nil => simp [scriptMet]
  | cons first rest ih => simp [scriptMet, ih]

mutual

lemma eventCalls_eq_filter :
    ∀ event, eventCalls event = (eventMet event).filter fun met => met.effect = .call
  | ⟨id, command, args, branches⟩ => by
    rw [eventCalls, eventMet]
    cases heffect : Event.effect ⟨id, command, args, branches⟩ with
    | guarded => exact namedCalls_eq_filter "true" branches
    | call => simp [heffect]
    | engine => simpa [heffect] using branchesCalls_eq_filter branches
    | _ => rfl

lemma scriptCalls_eq_filter :
    ∀ events, scriptCalls events = (scriptMet events).filter fun met => met.effect = .call
  | [] => rfl
  | event :: rest => by
    rw [scriptCalls, scriptMet, List.filter_append, eventCalls_eq_filter event,
      scriptCalls_eq_filter rest]

lemma branchesCalls_eq_filter :
    ∀ branches, branchesCalls branches =
      (branchesMet branches).filter fun met => met.effect = .call
  | [] => rfl
  | (_, body) :: rest => by
    rw [branchesCalls, branchesMet, List.filter_append, scriptCalls_eq_filter body,
      branchesCalls_eq_filter rest]

lemma namedCalls_eq_filter (wanted : String) :
    ∀ branches, namedCalls wanted branches =
      (namedMet wanted branches).filter fun met => met.effect = .call
  | [] => rfl
  | (_, body) :: rest => by
    rw [namedCalls, namedMet]
    split_ifs
    · exact scriptCalls_eq_filter body
    · exact namedCalls_eq_filter wanted rest

end

lemma mem_scriptCalls {events : List Event} {call : Event} :
    call ∈ scriptCalls events ↔ call ∈ scriptMet events ∧ call.effect = .call := by
  rw [scriptCalls_eq_filter, List.mem_filter, decide_eq_true_eq]

lemma Event.command_of_effect_eq_call {event : Event} (h : event.effect = .call) :
    event.command = Command.callCustom := by
  rw [Event.effect] at h
  split_ifs at h with _ _ _ _ _ hcommand
  exact hcommand

/-! ## What lowering goes through -/

mutual

/-- The events that lowering goes through in an event: itself, unless it is disabled, and those in
the branches that are lowered with it. -/
def eventLowered : Event → List Event
  | ⟨id, command, args, branches⟩ =>
    let event : Event := ⟨id, command, args, branches⟩
    if event.isDisabled then []
    else
      event ::
        match event.effect with
        | .guarded => namedLowered "true" branches
        | .engine => branchesLowered branches
        | _ => []

/-- The events that lowering goes through in a script, in order. -/
def scriptLowered : List Event → List Event
  | [] => []
  | event :: rest => eventLowered event ++ scriptLowered rest

/-- The same for all branches. -/
def branchesLowered : List (String × List Event) → List Event
  | [] => []
  | (_, body) :: rest => scriptLowered body ++ branchesLowered rest

/-- The same for the branch with a name. -/
def namedLowered (wanted : String) : List (String × List Event) → List Event
  | [] => []
  | (name, body) :: rest => if name = wanted then scriptLowered body else namedLowered wanted rest

end

lemma scriptLowered_eq_flatMap (events : List Event) :
    scriptLowered events = events.flatMap eventLowered := by
  induction events with
  | nil => rfl
  | cons event rest ih => rw [scriptLowered, List.flatMap_cons, ih]

/-- Lowering reads the arguments of the event. -/
def Event.isMet (event : Event) : Bool :=
  event.effect = .call || event.effect = .engine

lemma Event.isDisabled_of_effect {event : Event} (h : event.effect ≠ .idle) :
    event.isDisabled = false := by
  by_contra hdisabled
  rw [Bool.not_eq_false] at hdisabled
  refine h ?_
  rw [Event.effect, if_pos]
  rw [Event.isIdle, hdisabled, Bool.or_true]

mutual

lemma eventMet_eq_filter :
    ∀ event, eventMet event = (eventLowered event).filter Event.isMet
  | ⟨id, command, args, branches⟩ => by
    rw [eventMet, eventLowered]
    by_cases heffect : Event.effect ⟨id, command, args, branches⟩ = .idle
    · rw [heffect]
      split_ifs <;> simp [Event.isMet, heffect]
    · rw [if_neg (ne_true_of_eq_false (Event.isDisabled_of_effect heffect))]
      cases hcase : Event.effect ⟨id, command, args, branches⟩ with
      | guarded => simpa [Event.isMet, hcase] using namedMet_eq_filter "true" branches
      | engine => simpa [Event.isMet, hcase] using branchesMet_eq_filter branches
      | _ => simp [Event.isMet, hcase]

/-- The met events are those that are lowered and whose arguments lowering reads. -/
lemma scriptMet_eq_filter :
    ∀ events, scriptMet events = (scriptLowered events).filter Event.isMet
  | [] => rfl
  | event :: rest => by
    rw [scriptMet, scriptLowered, List.filter_append, eventMet_eq_filter event,
      scriptMet_eq_filter rest]

lemma branchesMet_eq_filter :
    ∀ branches, branchesMet branches = (branchesLowered branches).filter Event.isMet
  | [] => rfl
  | (_, body) :: rest => by
    rw [branchesMet, branchesLowered, List.filter_append, scriptMet_eq_filter body,
      branchesMet_eq_filter rest]

lemma namedMet_eq_filter (wanted : String) :
    ∀ branches, namedMet wanted branches = (namedLowered wanted branches).filter Event.isMet
  | [] => rfl
  | (_, body) :: rest => by
    rw [namedMet, namedLowered]
    split_ifs
    · exact scriptMet_eq_filter body
    · exact namedMet_eq_filter wanted rest

end

lemma mem_scriptMet_iff {events : List Event} {event : Event} :
    event ∈ scriptMet events ↔ event ∈ scriptLowered events ∧ event.isMet = true := by
  rw [scriptMet_eq_filter, List.mem_filter]

/-! ## Visits -/

section

variable (inner : Event → List Visit) (depth : Nat)

mutual

lemma mem_visitEvent_of_mem_eventLowered :
    ∀ event, ∀ lowered ∈ eventLowered event, ⟨lowered, depth⟩ ∈ visitEvent inner depth event
  | ⟨id, command, args, branches⟩, lowered, h => by
    rw [eventLowered] at h
    rw [visitEvent]
    split_ifs at h ⊢ with hdisabled
    · exact absurd h List.not_mem_nil
    · rcases List.mem_cons.mp h with rfl | hinside
      · exact List.mem_cons_self
      · refine List.mem_cons_of_mem _ (List.mem_append_left _ ?_)
        cases heffect : Event.effect ⟨id, command, args, branches⟩ with
        | guarded =>
          rw [heffect] at hinside
          exact mem_visitBranches_of_mem_namedLowered "true" branches lowered hinside
        | engine =>
          rw [heffect] at hinside
          exact mem_visitBranches_of_mem_branchesLowered branches lowered hinside
        | _ =>
          rw [heffect] at hinside
          exact absurd hinside List.not_mem_nil

lemma mem_visitEvents_of_mem_scriptLowered :
    ∀ events, ∀ lowered ∈ scriptLowered events, ⟨lowered, depth⟩ ∈ visitEvents inner depth events
  | [], _, h => absurd h List.not_mem_nil
  | event :: rest, lowered, h => by
    rw [visitEvents]
    rcases List.mem_append.mp h with hfirst | hrest
    · exact List.mem_append_left _ (mem_visitEvent_of_mem_eventLowered event lowered hfirst)
    · exact List.mem_append_right _ (mem_visitEvents_of_mem_scriptLowered rest lowered hrest)

lemma mem_visitBranches_of_mem_branchesLowered :
    ∀ branches, ∀ lowered ∈ branchesLowered branches,
      ⟨lowered, depth⟩ ∈ visitBranches inner depth branches
  | [], _, h => absurd h List.not_mem_nil
  | (_, body) :: rest, lowered, h => by
    rw [visitBranches]
    rcases List.mem_append.mp h with hfirst | hrest
    · exact List.mem_append_left _ (mem_visitEvents_of_mem_scriptLowered body lowered hfirst)
    · exact List.mem_append_right _ (mem_visitBranches_of_mem_branchesLowered rest lowered hrest)

lemma mem_visitBranches_of_mem_namedLowered (wanted : String) :
    ∀ branches, ∀ lowered ∈ namedLowered wanted branches,
      ⟨lowered, depth⟩ ∈ visitBranches inner depth branches
  | [], _, h => absurd h List.not_mem_nil
  | (_, body) :: rest, lowered, h => by
    rw [visitBranches]
    rw [namedLowered] at h
    split_ifs at h
    · exact List.mem_append_left _ (mem_visitEvents_of_mem_scriptLowered body lowered h)
    · exact List.mem_append_right _ (mem_visitBranches_of_mem_namedLowered wanted rest lowered h)

end

end

/-! ## Bodies of calls -/

/-- A walk and lowering see the same body behind a call of an open custom event. -/
lemma bodyOf?_of_calleeOf? {library : List CustomEvent} {call : Event} {callee : Callee}
    (hopen : ∀ custom ∈ library, scriptIsOpen custom.script = true) (heffect : call.effect = .call)
    (hcallee : calleeOf? library call = some callee) : bodyOf? library call = some callee.body := by
  obtain ⟨custom, hcustom, rfl⟩ := Option.map_eq_some_iff.mp hcallee
  have hmem : custom ∈ library := by
    obtain ⟨id, -, hid⟩ := Option.bind_eq_some_iff.mp hcustom
    exact List.mem_reverse.mp (List.mem_of_find?_eq_some hid)
  rw [(bodies_of_callee? (Event.command_of_effect_eq_call heffect) hcustom).1, Callee.body,
    bindEvents_boundArgs _ _ (hopen custom hmem)]

end Cartridge.Script
