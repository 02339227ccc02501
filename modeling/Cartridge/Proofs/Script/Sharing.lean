import Mathlib.Tactic.Common
import Cartridge.Proofs.Script.Resolution

/-!
# Shared scripts and the calls that name them

A call is resolved through the session's table, which is keyed by the custom event and the bound
arguments of the call.  The table only grows: an entry is added when its key is new and is never
replaced (`Session.Grows`).  So the symbols in the code of a script can be read off any later
table, and `resolvedCall` gives the code of a call from such a table.

When no level is left, lowering leaves all calls out; otherwise every call of a custom event that
exists is kept, and its key is in the table afterwards.
-/

namespace Cartridge.Script

open Cartridge.Digest (Key)
open Cartridge.Json
open Cartridge.Project (CustomEvent)

/-! ## Callees -/

/-- A custom event with the arguments that a call hands to its body. -/
@[ext] structure Callee where
  custom : CustomEvent
  bound : Fields

namespace Callee

/-- The key under which the shared script of a callee is found. -/
def key (callee : Callee) : Key :=
  sharedKey callee.custom callee.bound

/-- The events of the shared script. -/
def body (callee : Callee) : List Event :=
  bindEvents callee.bound callee.custom.script

/-- What a caller tells the callee apart by. -/
def signature (callee : Callee) : String × Fields :=
  (callee.custom.id, callee.bound)

end Callee

/-- The callee of a call, unless its custom event is missing. -/
def calleeOf? (library : List CustomEvent) (event : Event) : Option Callee :=
  (callee? library event).map fun custom => ⟨custom, boundArgs event.args⟩

/-- The callees of the calls that lowering meets in a script, in order. -/
def callees (scope : Scope) (events : List Event) : List Callee :=
  (scriptCalls events).filterMap (calleeOf? scope.library)

/-- A custom event is known by its id: the library gives it back. -/
lemma customEvent?_id {library : List CustomEvent} {id : String} {custom : CustomEvent}
    (h : Project.customEvent? library id = some custom) :
    Project.customEvent? library custom.id = some custom := by
  have hid : custom.id = id := by
    have hfound := List.find?_some h
    simpa using hfound
  rw [hid]
  exact h

lemma customEvent?_of_mem_callees {scope : Scope} {events : List Event} {callee : Callee}
    (h : callee ∈ callees scope events) :
    Project.customEvent? scope.library callee.custom.id = some callee.custom := by
  obtain ⟨event, -, hevent⟩ := List.mem_filterMap.mp h
  obtain ⟨custom, hcustom, rfl⟩ := Option.map_eq_some_iff.mp hevent
  obtain ⟨id, -, hid⟩ := Option.bind_eq_some_iff.mp hcustom
  exact customEvent?_id hid

/-! ## The table of shared scripts -/

namespace Session

/-- The symbol of a callee's shared script, if the table has one. -/
def symbol? (session : Session) (callee : Callee) : Option String :=
  session.shared.lookup callee.key

/-- The symbol of a callee's shared script. -/
def symbolOf (session : Session) (callee : Callee) : String :=
  (session.symbol? callee).getD ""

/-- A later session still has every entry of the table. -/
def Grows (session later : Session) : Prop :=
  ∀ key symbol, session.shared.lookup key = some symbol → later.shared.lookup key = some symbol

lemma Grows.refl (session : Session) : Grows session session :=
  fun _ _ h => h

lemma Grows.trans {first second third : Session} (h : Grows first second)
    (h' : Grows second third) : Grows first third :=
  fun key symbol hkey => h' key symbol (h key symbol hkey)

lemma Grows.symbolOf_eq {session later : Session} (h : Grows session later) {callee : Callee}
    {symbol : String} (hsymbol : session.symbol? callee = some symbol) :
    later.symbolOf callee = symbol := by
  rw [symbolOf, symbol?, h _ _ hsymbol, Option.getD_some]

/-- The session with a new symbol for a callee, before its script is compiled. -/
def enter (session : Session) (callee : Callee) : Session :=
  { session with
    symbols := session.symbols.allocateShared.2
    shared := (callee.key, session.symbols.allocateShared.1) :: session.shared }

lemma symbol?_enter (session : Session) (callee : Callee) :
    (session.enter callee).symbol? callee = some session.symbols.allocateShared.1 :=
  List.lookup_cons_self

lemma grows_enter {session : Session} {callee : Callee} (h : session.symbol? callee = none) :
    Grows session (session.enter callee) := by
  intro key symbol hkey
  have hne : key ≠ callee.key := by
    rintro rfl
    rw [symbol?, hkey] at h
    exact absurd h (by simp)
  show List.lookup key ((callee.key, _) :: session.shared) = some symbol
  rw [List.lookup_cons, beq_eq_false_iff_ne.mpr hne]
  exact hkey

end Session

/-! ## Lowering a call -/

/-- The shared script of a callee. -/
def sharedScript (callee : Callee) (symbol : String) (code : List Code) : Compiled where
  symbol := symbol
  entityId := callee.custom.id
  slot := "script"
  lock := false
  listing := sharedListing (.comment ("Custom script " ++ callee.custom.name) :: code)

variable {session : Session} {scope : Scope} {event : Event} {callee : Callee}

/-- A callee whose key is in the table is not compiled again. -/
lemma sharedSymbol_of_some {lowerBody : List Event → Session → List Code × Session}
    {custom : CustomEvent} {args : Fields} {symbol : String}
    (h : session.symbol? ⟨custom, boundArgs args⟩ = some symbol) :
    sharedSymbol lowerBody custom args session = (symbol, session) := by
  rw [Session.symbol?, Callee.key] at h
  simp only [sharedSymbol, h]

/-- A new callee gets its symbol first, then its body is lowered, then its script is added. -/
lemma sharedSymbol_of_none {lowerBody : List Event → Session → List Code × Session}
    {custom : CustomEvent} {args : Fields} (h : session.symbol? ⟨custom, boundArgs args⟩ = none) :
    sharedSymbol lowerBody custom args session =
      let callee : Callee := ⟨custom, boundArgs args⟩
      let body := lowerBody callee.body (session.enter callee)
      (session.symbols.allocateShared.1,
        body.2.add (sharedScript callee session.symbols.allocateShared.1 body.1)) := by
  rw [Session.symbol?, Callee.key] at h
  simp only [sharedSymbol, h]
  rfl

/-- A call that has no callee leaves at most a warning. -/
lemma lowerCall_of_none {follow : Option (List Event → Session → List Code × Session)}
    (h : calleeOf? scope.library event = none) (session : Session) :
    ∃ later, lowerCall scope follow event session = ([], later) ∧
      (later = session ∨ ∃ text, later = session.warn text) := by
  rw [calleeOf?, Option.map_eq_none_iff, callee?, Option.bind_eq_none_iff] at h
  rw [lowerCall]
  cases hid : event.text? calleeArgument with
  | none => exact ⟨session, rfl, .inl rfl⟩
  | some id =>
    simp only [h id hid]
    exact ⟨_, rfl, .inr ⟨_, rfl⟩⟩

/-- At the last level a call of a custom event leaves a warning. -/
lemma lowerCall_none (scope : Scope) (event : Event) (session : Session) :
    ∃ later, lowerCall scope none event session = ([], later) ∧
      (later = session ∨ ∃ text, later = session.warn text) := by
  cases hcallee : calleeOf? scope.library event with
  | none => exact lowerCall_of_none hcallee session
  | some callee =>
    obtain ⟨custom, hcustom, rfl⟩ := Option.map_eq_some_iff.mp hcallee
    obtain ⟨id, hid, hfound⟩ := Option.bind_eq_some_iff.mp hcustom
    simp only [lowerCall, hid, hfound]
    exact ⟨_, rfl, .inr ⟨_, rfl⟩⟩

/-- A call that is followed becomes a call of the shared script. -/
lemma lowerCall_of_some {lowerBody : List Event → Session → List Code × Session}
    (h : calleeOf? scope.library event = some callee) (session : Session) :
    lowerCall scope (some lowerBody) event session =
      ([.call (sharedSymbol lowerBody callee.custom event.args session).1],
        (sharedSymbol lowerBody callee.custom event.args session).2) := by
  obtain ⟨custom, hcustom, rfl⟩ := Option.map_eq_some_iff.mp h
  obtain ⟨id, hid, hfound⟩ := Option.bind_eq_some_iff.mp hcustom
  simp only [lowerCall, hid, hfound]

lemma bound_of_calleeOf? {library : List CustomEvent} (h : calleeOf? library event = some callee) :
    callee = ⟨callee.custom, boundArgs event.args⟩ := by
  obtain ⟨custom, -, rfl⟩ := Option.map_eq_some_iff.mp h
  rfl

/-! ## Lowering a script -/

/-- The code of a call when `levels` levels are left, by the symbols of a session. -/
def resolvedCall (scope : Scope) (session : Session) : (levels : Nat) → Event → List Code
  | 0, _ => []
  | _ + 1, event =>
    match calleeOf? scope.library event with
    | none => []
    | some callee => [.call (session.symbolOf callee)]

/-- How a script with `levels` levels left handles its calls. -/
def handlerAt (scope : Scope) : (levels : Nat) → CallHandler
  | 0 => lowerCall scope none
  | levels + 1 => lowerCall scope (some (lowerScript scope levels))

lemma lowerScript_eq (scope : Scope) (levels : Nat) :
    lowerScript scope levels = lowerEvents scope (handlerAt scope levels) := by
  cases levels <;> rfl

/-- A relation between a session and a later one that holds across all that lowering does to a
session: it warns, or it enters a new callee and adds the shared script at the end. -/
structure Kept (R : Session → Session → Prop) : Prop where
  refl : ∀ s, R s s
  trans : ∀ s t u, R s t → R t u → R s u
  warn : ∀ s text, R s (s.warn text)
  enter : ∀ s callee, s.symbol? callee = none → R s (s.enter callee)
  add : ∀ s callee symbol code, R s (s.add (sharedScript callee symbol code))

namespace Kept

variable {R : Session → Session → Prop}

lemma of_idle_call (h : Kept R) {later : Session}
    (hlater : later = session ∨ ∃ text, later = session.warn text) : R session later := by
  rcases hlater with rfl | ⟨text, rfl⟩
  · exact h.refl _
  · exact h.warn session text

lemma sharedSymbol (h : Kept R) {lowerBody : List Event → Session → List Code × Session}
    (hbody : ∀ events s, R s (lowerBody events s).2) (custom : CustomEvent) (args : Fields)
    (session : Session) : R session (Script.sharedSymbol lowerBody custom args session).2 := by
  cases hsymbol : session.symbol? ⟨custom, boundArgs args⟩ with
  | some symbol =>
    rw [sharedSymbol_of_some hsymbol]
    exact h.refl _
  | none =>
    rw [sharedSymbol_of_none hsymbol]
    exact h.trans _ _ _ (h.enter _ _ hsymbol) (h.trans _ _ _ (hbody _ _) (h.add _ _ _ _))

/-- A call keeps what the scripts it follows keep. -/
lemma handlerAt (h : Kept R) (scope : Scope) (levels : Nat)
    (hbody : ∀ below, below < levels → ∀ events s, R s (lowerScript scope below events s).2)
    (event : Event) : Keeps R (Script.handlerAt scope levels) event := by
  intro session
  cases levels with
  | zero =>
    obtain ⟨later, heq, hlater⟩ := lowerCall_none scope event session
    rw [Script.handlerAt, heq]
    exact h.of_idle_call hlater
  | succ levels =>
    rw [Script.handlerAt]
    cases hcallee : calleeOf? scope.library event with
    | none =>
      obtain ⟨later, heq, hlater⟩ := lowerCall_of_none hcallee session
      rw [heq]
      exact h.of_idle_call hlater
    | some callee =>
      rw [lowerCall_of_some hcallee]
      exact h.sharedSymbol (hbody levels (Nat.lt_succ_self _)) callee.custom event.args session

lemma lowerScript (h : Kept R) (scope : Scope) (levels : Nat) (events : List Event)
    (session : Session) : R session (Script.lowerScript scope levels events session).2 := by
  induction levels using Nat.strongRecOn generalizing events session with
  | ind levels ih =>
    rw [lowerScript_eq]
    exact (threads_lowerEvents ⟨h.refl, h.trans⟩ events fun event _ =>
      h.handlerAt scope levels (fun below hbelow => ih below hbelow) event).related session

end Kept

/-- Lowering only adds to the table. -/
lemma kept_grows : Kept Session.Grows where
  refl := .refl
  trans _ _ _ := .trans
  warn _ _ _ _ h := h
  enter _ _ := Session.grows_enter
  add _ _ _ _ _ _ h := h

lemma grows_lowerScript (scope : Scope) (levels : Nat) (events : List Event) (session : Session) :
    session.Grows (lowerScript scope levels events session).2 :=
  kept_grows.lowerScript scope levels events session

/-- After a call that is followed the table has the callee's symbol, and it is the one called. -/
lemma symbol?_sharedSymbol (scope : Scope) (levels : Nat) (custom : CustomEvent) (args : Fields)
    (session : Session) :
    (sharedSymbol (lowerScript scope levels) custom args session).2.symbol?
        ⟨custom, boundArgs args⟩ =
      some (sharedSymbol (lowerScript scope levels) custom args session).1 := by
  cases h : session.symbol? ⟨custom, boundArgs args⟩ with
  | some symbol =>
    rw [sharedSymbol_of_some h]
    exact h
  | none =>
    rw [sharedSymbol_of_none h]
    exact grows_lowerScript scope levels _ _ _ _ (session.symbol?_enter _)

lemma threads_lowerEvents_handlerAt (scope : Scope) (levels : Nat) (events : List Event) :
    Threads Session.Grows (handlerAt scope levels) (scriptCalls events)
      (lowerEvents scope (handlerAt scope levels) events) fun code =>
        eventsCode scope code events :=
  threads_lowerEvents ⟨kept_grows.refl, kept_grows.trans⟩ events fun event _ =>
    kept_grows.handlerAt scope levels (fun below _ => grows_lowerScript scope below) event

/-- The code of a call is the one that any later table gives. -/
lemma answers_handlerAt (scope : Scope) (levels : Nat) (later : Session) (event : Event) :
    Answers Session.Grows (handlerAt scope levels) later (resolvedCall scope later levels)
      event := by
  intro session hlater
  cases levels with
  | zero =>
    obtain ⟨_, heq, -⟩ := lowerCall_none scope event session
    rw [handlerAt, heq, resolvedCall]
  | succ levels =>
    rw [handlerAt] at hlater ⊢
    rw [resolvedCall]
    cases hcallee : calleeOf? scope.library event with
    | none =>
      obtain ⟨_, heq, -⟩ := lowerCall_of_none hcallee session
      rw [heq]
    | some callee =>
      rw [lowerCall_of_some hcallee] at hlater ⊢
      have hsymbol := symbol?_sharedSymbol scope levels callee.custom event.args session
      rw [← bound_of_calleeOf? hcallee] at hsymbol
      simp only [hlater.symbolOf_eq hsymbol]

lemma lowerScript_code {levels : Nat} {events : List Event} {later : Session}
    (h : (lowerScript scope levels events session).2.Grows later) :
    (lowerScript scope levels events session).1 =
      eventsCode scope (resolvedCall scope later levels) events := by
  rw [lowerScript_eq] at h ⊢
  exact (threads_lowerEvents_handlerAt scope levels events).code_eq later
    (fun event _ => answers_handlerAt scope levels later event) session h

lemma exists_symbol_of_mem_callees {events : List Event} (hcallee : callee ∈ callees scope events)
    (levels : Nat) (session : Session) :
    ∃ symbol, (lowerScript scope (levels + 1) events session).2.symbol? callee = some symbol := by
  obtain ⟨event, hevent, hfound⟩ := List.mem_filterMap.mp hcallee
  rw [lowerScript_eq]
  obtain ⟨before, hbefore⟩ :=
    (threads_lowerEvents_handlerAt scope (levels + 1) events).wasMade session event hevent
  rw [handlerAt, lowerCall_of_some hfound] at hbefore
  have hsymbol := symbol?_sharedSymbol scope levels callee.custom event.args before
  rw [← bound_of_calleeOf? hfound] at hsymbol
  exact ⟨_, hbefore _ _ hsymbol⟩

end Cartridge.Script
