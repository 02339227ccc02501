import Mathlib.Tactic.Lemma
import Mathlib.Tactic.SplitIfs
import Cartridge.Script.Lowering

/-!
# The code of events, call by call

Lowering threads a session through the events and asks a handler for the code of each call.  Apart
from the calls the code depends on the events alone.  `eventsCode` is the code of a script once
the code of its calls is known, and `scriptCalls` lists the calls that lowering meets, in order.

The lemmas at the end take lowering apart, for any preorder on sessions that the handler keeps
between the sessions before and after a call: a whole script keeps it, every call that the script
meets is made on the way, and the code of the script is its `eventsCode` for the answers that the
handler gave (`threads_lowerEvents`).
-/

namespace Cartridge.Script

open Cartridge.Json

/-! ## What an event does -/

/-- What lowering does with an event. -/
inductive Effect
  /-- Nothing: the event is disabled or ends the script. -/
  | idle
  /-- Leaves a remark that names the entity of the script. -/
  | context
  | spriteMode
  /-- Guards its branch `true` by the value of a parameter. -/
  | guarded
  | fadeIn
  /-- Calls a custom event. -/
  | call
  /-- Hands the command to the engine, together with all branches. -/
  | engine
  deriving DecidableEq

/-- What lowering does with an event. -/
def Event.effect (event : Event) : Effect :=
  if event.isIdle then .idle
  else if event.command = Command.setContext then .context
  else if event.command = Command.setSpriteMode then .spriteMode
  else if event.command = Command.guardParameter then .guarded
  else if event.command = Command.fadeIn then .fadeIn
  else if event.command = Command.callCustom then .call
  else .engine

lemma lowerEvent_eq (scope : Scope) (call : CallHandler) (event : Event) (session : Session) :
    lowerEvent scope call event session =
      match event.effect with
      | .idle => ([], session)
      | .context => ([.comment (contextText event)], session)
      | .spriteMode => ([.spriteMode (modeArg event)], session)
      | .guarded =>
        let body := lowerNamed scope call "true" event.branches session
        ([.guarded (naturalArg event.args "parameter" 0) (naturalArg event.args "value" 0)
          body.1], body.2)
      | .fadeIn => ([.fadeIn (naturalArg event.args "speed" 1)], session)
      | .call => call event session
      | .engine =>
        let bodies := lowerBranches scope call event.branches session
        ([.event event.command (engineArgs scope event.command event.args) bodies.1],
          bodies.2) := by
  obtain ⟨id, command, args, branches⟩ := event
  rw [lowerEvent, Event.effect]
  dsimp only
  split_ifs <;> rfl

/-! ## Code and calls of a script -/

mutual

/-- The code of an event, where `call` gives the code of a call. -/
def eventCode (scope : Scope) (call : Event → List Code) : Event → List Code
  | ⟨id, command, args, branches⟩ =>
    let event : Event := ⟨id, command, args, branches⟩
    match event.effect with
    | .idle => []
    | .context => [.comment (contextText event)]
    | .spriteMode => [.spriteMode (modeArg event)]
    | .guarded =>
      [.guarded (naturalArg args "parameter" 0) (naturalArg args "value" 0)
        (namedCode scope call "true" branches)]
    | .fadeIn => [.fadeIn (naturalArg args "speed" 1)]
    | .call => call event
    | .engine =>
      [.event command (engineArgs scope command args) (branchesCode scope call branches)]

/-- The code of a list of events. -/
def eventsCode (scope : Scope) (call : Event → List Code) : List Event → List Code
  | [] => []
  | event :: rest => eventCode scope call event ++ eventsCode scope call rest

/-- The code of all branches. -/
def branchesCode (scope : Scope) (call : Event → List Code) :
    List (String × List Event) → List (String × List Code)
  | [] => []
  | (name, body) :: rest => (name, eventsCode scope call body) :: branchesCode scope call rest

/-- The code of the branch with a name. -/
def namedCode (scope : Scope) (call : Event → List Code) (wanted : String) :
    List (String × List Event) → List Code
  | [] => []
  | (name, body) :: rest =>
    if name = wanted then eventsCode scope call body else namedCode scope call wanted rest

end

mutual

/-- The calls that lowering meets in an event, in order. -/
def eventCalls : Event → List Event
  | ⟨id, command, args, branches⟩ =>
    let event : Event := ⟨id, command, args, branches⟩
    match event.effect with
    | .guarded => namedCalls "true" branches
    | .call => [event]
    | .engine => branchesCalls branches
    | _ => []

/-- The calls that lowering meets in a list of events. -/
def scriptCalls : List Event → List Event
  | [] => []
  | event :: rest => eventCalls event ++ scriptCalls rest

/-- The calls that lowering meets in all branches. -/
def branchesCalls : List (String × List Event) → List Event
  | [] => []
  | (_, body) :: rest => scriptCalls body ++ branchesCalls rest

/-- The calls that lowering meets in the branch with a name. -/
def namedCalls (wanted : String) : List (String × List Event) → List Event
  | [] => []
  | (name, body) :: rest => if name = wanted then scriptCalls body else namedCalls wanted rest

end

/-! ## Lowering, taken apart -/

section

variable {scope : Scope} {call : CallHandler} {R : Session → Session → Prop}

/-- A call relates the sessions before and after it. -/
def Keeps (R : Session → Session → Prop) (call : CallHandler) (event : Event) : Prop :=
  ∀ session, R session (call event session).2

/-- The code of a call is the one that `code` gives, if the session goes on to `final`. -/
def Answers (R : Session → Session → Prop) (call : CallHandler) (final : Session)
    (code : Event → List Code) (event : Event) : Prop :=
  ∀ session, R (call event session).2 final → (call event session).1 = code event

/-- The call of `event` was made in some session, and what it left leads to `final`. -/
def WasMade (R : Session → Session → Prop) (call : CallHandler) (final : Session)
    (event : Event) : Prop :=
  ∃ session, R (call event session).2 final

/-- A part of lowering that meets the given calls keeps the relation, makes each call on the way,
and has the code for the answers that the calls gave. -/
structure Threads {α : Type} (R : Session → Session → Prop) (call : CallHandler)
    (calls : List Event) (part : Session → α × Session) (code : (Event → List Code) → α) :
    Prop where
  related : ∀ session, R session (part session).2
  wasMade : ∀ session, ∀ e ∈ calls, WasMade R call (part session).2 e
  code_eq : ∀ final {answers}, (∀ e ∈ calls, Answers R call final answers e) →
    ∀ session, R (part session).2 final → (part session).1 = code answers

namespace Threads

variable {α β γ : Type} {calls later : List Event} {first : Session → α × Session}
  {second : Session → β × Session} {code : (Event → List Code) → α}
  {code' : (Event → List Code) → β}

lemma const (hrefl : ∀ s, R s s) (a : α) :
    Threads R call [] (fun session => (a, session)) fun _ => a :=
  ⟨hrefl, by simp, fun _ _ _ _ _ => rfl⟩

lemma map (h : Threads R call calls first code) (f : α → β) :
    Threads R call calls (fun session => (f (first session).1, (first session).2))
      fun answers => f (code answers) :=
  ⟨h.related, h.wasMade, fun final _ hanswers session hfinal =>
    congrArg f (h.code_eq final hanswers session hfinal)⟩

/-- One part after the other. -/
lemma append (htrans : ∀ s t u, R s t → R t u → R s u) (h : Threads R call calls first code)
    (h' : Threads R call later second code') (f : α → β → γ) :
    Threads R call (calls ++ later)
      (fun session => (f (first session).1 (second (first session).2).1,
        (second (first session).2).2))
      fun answers => f (code answers) (code' answers) where
  related session := htrans _ _ _ (h.related session) (h'.related _)
  wasMade session := by
    refine List.forall_mem_append.mpr ⟨fun e he => ?_, h'.wasMade _⟩
    obtain ⟨s, hs⟩ := h.wasMade session e he
    exact ⟨s, htrans _ _ _ hs (h'.related _)⟩
  code_eq final _ hanswers session hfinal := by
    rw [List.forall_mem_append] at hanswers
    dsimp only
    rw [h.code_eq final hanswers.1 session (htrans _ _ _ (h'.related _) hfinal),
      h'.code_eq final hanswers.2 _ hfinal]

end Threads

variable (hpreorder : (∀ s, R s s) ∧ ∀ s t u, R s t → R t u → R s u)
include hpreorder

mutual

lemma threads_lowerEvent : ∀ event, (∀ e ∈ eventCalls event, Keeps R call e) →
    Threads R call (eventCalls event) (lowerEvent scope call event)
      fun code => eventCode scope code event
  | ⟨id, command, args, branches⟩, hcall => by
    rw [funext (lowerEvent_eq scope call _)]
    simp only [eventCalls, eventCode] at hcall ⊢
    cases heffect : Event.effect ⟨id, command, args, branches⟩ with
    | guarded =>
      rw [heffect] at hcall
      exact (threads_lowerNamed "true" branches hcall).map fun body =>
        [Code.guarded (naturalArg args "parameter" 0) (naturalArg args "value" 0) body]
    | call =>
      simp only [heffect, List.forall_mem_singleton] at hcall ⊢
      exact ⟨hcall, fun session => List.forall_mem_singleton.mpr ⟨session, hpreorder.1 _⟩,
        fun _ _ hanswers => List.forall_mem_singleton.mp hanswers⟩
    | engine =>
      rw [heffect] at hcall
      exact (threads_lowerBranches branches hcall).map fun bodies =>
        [Code.event command (engineArgs scope command args) bodies]
    | _ => exact .const hpreorder.1 _

lemma threads_lowerEvents : ∀ events, (∀ e ∈ scriptCalls events, Keeps R call e) →
    Threads R call (scriptCalls events) (lowerEvents scope call events)
      fun code => eventsCode scope code events
  | [], _ => .const hpreorder.1 []
  | event :: rest, hcall =>
    have hcall := List.forall_mem_append.mp hcall
    (threads_lowerEvent event hcall.1).append hpreorder.2 (threads_lowerEvents rest hcall.2)
      (· ++ ·)

lemma threads_lowerBranches : ∀ branches, (∀ e ∈ branchesCalls branches, Keeps R call e) →
    Threads R call (branchesCalls branches) (lowerBranches scope call branches)
      fun code => branchesCode scope code branches
  | [], _ => .const hpreorder.1 []
  | (name, body) :: rest, hcall =>
    have hcall := List.forall_mem_append.mp hcall
    (threads_lowerEvents body hcall.1).append hpreorder.2 (threads_lowerBranches rest hcall.2)
      fun code others => (name, code) :: others

lemma threads_lowerNamed (wanted : String) : ∀ branches,
    (∀ e ∈ namedCalls wanted branches, Keeps R call e) →
    Threads R call (namedCalls wanted branches) (lowerNamed scope call wanted branches)
      fun code => namedCode scope code wanted branches
  | [], _ => .const hpreorder.1 []
  | (name, body) :: rest, hcall => by
    have hlower : lowerNamed scope call wanted ((name, body) :: rest) =
        if name = wanted then lowerEvents scope call body
        else lowerNamed scope call wanted rest := by
      funext session
      rw [lowerNamed]
      split_ifs <;> rfl
    rw [namedCalls] at hcall ⊢
    simp only [namedCode, hlower]
    split_ifs at hcall ⊢ with hname
    · exact threads_lowerEvents body hcall
    · exact threads_lowerNamed wanted rest hcall

end

end

/-- Code depends on a call only through the code of the calls that lowering meets. -/
lemma eventsCode_congr {scope : Scope} {events : List Event} {first second : Event → List Code}
    (h : ∀ e ∈ scriptCalls events, first e = second e) :
    eventsCode scope first events = eventsCode scope second events := by
  -- a handler whose answers are the first ones has the second ones as answers too
  let start : Session := { symbols := .empty }
  let handler : CallHandler := fun e s => (first e, s)
  have hthreads : Threads (fun _ _ => True) handler (scriptCalls events)
      (lowerEvents scope handler events) fun code => eventsCode scope code events :=
    threads_lowerEvents ⟨fun _ => trivial, fun _ _ _ _ _ => trivial⟩ events fun _ _ _ => trivial
  have hcode : ∀ code, (∀ e ∈ scriptCalls events, first e = code e) →
      (lowerEvents scope handler events start).1 = eventsCode scope code events :=
    fun code hfirst => hthreads.code_eq start (fun e he _ _ => hfirst e he) start trivial
  exact (hcode first fun _ _ => rfl).symm.trans (hcode second h)

end Cartridge.Script
