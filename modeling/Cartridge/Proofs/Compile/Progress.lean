import Mathlib.Logic.Relation
import Cartridge.Proofs.Compile.Requests
import Cartridge.Proofs.Script.Outline

/-!
# Compiling, move by move

While requests are compiled, scripts are begun and finished like the calls of a recursive program:
the script of a request waits until the shared scripts it calls are finished, those wait for what
they call, and so on.  The session shows only the finished scripts.  Here a `Progress` keeps the
others too, as a stack of tasks, and a `Move` says what can happen next.

There are four moves.  A warning changes no script.  A request begins a task with all levels.  A
task that has a level left and calls what is not in the table yet begins a task with one level
less.  The task on top finishes once every call it keeps has its symbol.

Compiling requests is a sequence of such moves (`moves_compileAll`).
-/

namespace Cartridge.Compile

open Cartridge.Script

/-! ## Tasks -/

/-- What a script is compiled for. -/
inductive Origin
  | entity (request : Request)
  | shared (callee : Callee)

namespace Origin

/-- The events of the script. -/
def events : Origin → List Event
  | entity request => request.events
  | shared callee => callee.body

/-- The compiled script. -/
def script : Origin → (symbol : String) → List Code → Compiled
  | entity request => entityScript request
  | shared callee => sharedScript callee

lemma script_symbol (origin : Origin) (symbol : String) (code : List Code) :
    (origin.script symbol code).symbol = symbol := by
  cases origin <;> rfl

lemma hasOutline_listing {α : Type} {code : (α → String) → List Code} {targets : List α}
    (h : Outlined code targets) (origin : Origin) (symbol : String) :
    HasOutline (fun name => (origin.script symbol (code name)).listing) targets := by
  cases origin with
  | shared callee => exact h.sharedListing _
  | entity request =>
    simp only [script, entityScript]
    split_ifs with hlooped
    · exact h.loopedListing
    · exact h.entityListing

end Origin

/-- A script that has been begun. -/
structure Task where
  origin : Origin
  symbol : String
  /-- The number of levels down to which its calls are followed. -/
  levels : Nat

/-- The callee of a call that is kept when `levels` levels are left. -/
def kept? (scope : Scope) : (levels : Nat) → Event → Option Callee
  | 0, _ => none
  | _ + 1, event => calleeOf? scope.library event

lemma resolvedCall_eq (scope : Scope) (session : Session) (levels : Nat) :
    resolvedCall scope session levels = namedCall (kept? scope levels) session.symbolOf := by
  funext event
  cases levels with
  | zero => rfl
  | succ levels =>
    rw [resolvedCall, namedCall, kept?]
    cases calleeOf? scope.library event <;> rfl

namespace Task

variable (scope : Scope)

/-- The callees of the calls that the script keeps, in order. -/
def calls (task : Task) : List Callee :=
  (scriptCalls task.origin.events).filterMap (kept? scope task.levels)

/-- The compiled script, with the symbols of a session in its calls. -/
def script (session : Session) (task : Task) : Compiled :=
  task.origin.script task.symbol
    (eventsCode scope (resolvedCall scope session task.levels) task.origin.events)

@[simp] lemma script_symbol (session : Session) (task : Task) :
    (task.script scope session).symbol = task.symbol :=
  task.origin.script_symbol _ _

lemma calls_of_levels_eq_zero {task : Task} (h : task.levels = 0) : task.calls scope = [] := by
  rw [calls, h]
  exact List.filterMap_eq_nil_iff.mpr fun _ _ => rfl

lemma calls_of_levels_eq_succ {task : Task} {levels : Nat} (h : task.levels = levels + 1) :
    task.calls scope = callees scope task.origin.events := by
  rw [calls, h]
  rfl

/-- Only a task with a level left keeps calls, and it keeps those of its events. -/
lemma mem_calls {task : Task} {callee : Callee} :
    callee ∈ task.calls scope ↔
      ∃ levels, task.levels = levels + 1 ∧ callee ∈ callees scope task.origin.events := by
  cases h : task.levels with
  | zero => simp [calls_of_levels_eq_zero scope h]
  | succ levels => simp [calls_of_levels_eq_succ scope h]

lemma exists_outline (task : Task) :
    ∃ lines : List (Line Callee), lines.filterMap Line.target? = task.calls scope ∧
      ∀ session, (task.script scope session).listing =
        lines.map (Line.fill (Session.symbolOf session)) := by
  obtain ⟨lines, htargets, hlines⟩ := Origin.hasOutline_listing
    (outlined_eventsCode scope (kept? scope task.levels) task.origin.events) task.origin task.symbol
  refine ⟨lines, htargets, fun session => ?_⟩
  rw [← hlines, script, resolvedCall_eq]

lemma script_congr {task : Task} {session later : Session}
    (h : ∀ callee ∈ task.calls scope, session.symbolOf callee = later.symbolOf callee) :
    task.script scope session = task.script scope later := by
  obtain ⟨lines, htargets, hlines⟩ := task.exists_outline scope
  have hlisting : (task.script scope session).listing = (task.script scope later).listing := by
    rw [hlines, hlines]
    exact Line.fill_congr (htargets ▸ h)
  obtain ⟨origin, symbol, levels⟩ := task
  cases origin <;> exact congrArg (Compiled.mk _ _ _ _) hlisting

end Task

/-! ## Moves -/

/-- A session together with the tasks that led to it. -/
structure Progress where
  session : Session
  /-- The tasks that wait for others, the one that is lowered first. -/
  pending : List Task
  finished : List Task

/-- What can happen next while requests are compiled. -/
inductive Move (scope : Scope) (requests : List Request) : Progress → Progress → Prop
  | warn (session pending finished text) :
    Move scope requests ⟨session, pending, finished⟩ ⟨session.warn text, pending, finished⟩
  | begin {session finished request} (hrequest : request ∈ requests)
    (hskipped : request.isSkipped = false) :
    Move scope requests ⟨session, [], finished⟩
      ⟨{ session with symbols := (request.allocate session).2 },
        [⟨.entity request, (request.allocate session).1, maxNesting⟩], finished⟩
  | enter {session task rest finished levels callee} (hlevels : task.levels = levels + 1)
    (hcallee : callee ∈ callees scope task.origin.events)
    (hnew : session.symbol? callee = none) :
    Move scope requests ⟨session, task :: rest, finished⟩
      ⟨session.enter callee,
        ⟨.shared callee, session.symbols.allocateShared.1, levels⟩ :: task :: rest, finished⟩
  | finish {session task rest finished}
    (hcalls : ∀ callee ∈ task.calls scope, ∃ symbol, session.symbol? callee = some symbol) :
    Move scope requests ⟨session, task :: rest, finished⟩
      ⟨session.add (task.script scope session), rest, finished ++ [task]⟩

/-- A sequence of moves. -/
abbrev Moves (scope : Scope) (requests : List Request) : Progress → Progress → Prop :=
  Relation.ReflTransGen (Move scope requests)

variable {scope : Scope} {requests : List Request}

/-- Moves from one session to another that leave the pending tasks as they are. -/
def Advances (scope : Scope) (requests : List Request) (pending : List Task)
    (session later : Session) : Prop :=
  ∀ finished, ∃ finished', Moves scope requests ⟨session, pending, finished⟩
    ⟨later, pending, finished'⟩

namespace Advances

variable {pending : List Task}

lemma refl (session : Session) : Advances scope requests pending session session :=
  fun finished => ⟨finished, .refl⟩

lemma trans {first second third : Session} (h : Advances scope requests pending first second)
    (h' : Advances scope requests pending second third) :
    Advances scope requests pending first third := by
  intro finished
  obtain ⟨middle, hmiddle⟩ := h finished
  obtain ⟨final, hfinal⟩ := h' middle
  exact ⟨final, hmiddle.trans hfinal⟩

lemma of_idle_call {session later : Session}
    (h : later = session ∨ ∃ text, later = session.warn text) :
    Advances scope requests pending session later := by
  rcases h with rfl | ⟨text, rfl⟩
  · exact refl _
  · exact fun finished => ⟨finished, .single (.warn session pending finished text)⟩

end Advances

/-- A script whose calls have been made can be finished, and its code is the one lowered. -/
lemma move_finish (task : Task) (rest finished : List Task) (session : Session) :
    Move scope requests
      ⟨(lowerScript scope task.levels task.origin.events session).2, task :: rest, finished⟩
      ⟨(lowerScript scope task.levels task.origin.events session).2.add
        (task.origin.script task.symbol
          (lowerScript scope task.levels task.origin.events session).1),
        rest, finished ++ [task]⟩ := by
  rw [lowerScript_code (.refl _)]
  refine .finish fun callee hcallee => ?_
  obtain ⟨levels, hlevels, hcallee⟩ := (Task.mem_calls scope).mp hcallee
  rw [hlevels]
  exact exists_symbol_of_mem_callees hcallee levels session

/-- A new callee is entered, its body lowered and its script finished. -/
lemma advances_enter {session : Session} {task : Task} {rest : List Task} {levels : Nat}
    {callee : Callee} (hlevels : task.levels = levels + 1)
    (hcallee : callee ∈ callees scope task.origin.events) (hnew : session.symbol? callee = none)
    (hbody : Advances scope requests
      (⟨.shared callee, session.symbols.allocateShared.1, levels⟩ :: task :: rest)
      (session.enter callee) (lowerScript scope levels callee.body (session.enter callee)).2) :
    Advances scope requests (task :: rest) session
      ((lowerScript scope levels callee.body (session.enter callee)).2.add
        (sharedScript callee session.symbols.allocateShared.1
          (lowerScript scope levels callee.body (session.enter callee)).1)) := by
  intro finished
  obtain ⟨finished', hmoves⟩ := hbody finished
  let below : Task := ⟨.shared callee, session.symbols.allocateShared.1, levels⟩
  exact ⟨finished' ++ [below], (Relation.ReflTransGen.head (.enter hlevels hcallee hnew)
    hmoves).tail (move_finish below (task :: rest) finished' (session.enter callee))⟩

lemma keeps_advances_handlerAt {task : Task} {rest : List Task}
    (hbody : ∀ (below : Task) (under : List Task), below.levels < task.levels → ∀ session,
      Advances scope requests (below :: under) session
        (lowerScript scope below.levels below.origin.events session).2)
    {event : Event} (hevent : event ∈ scriptCalls task.origin.events) :
    Keeps (Advances scope requests (task :: rest)) (handlerAt scope task.levels) event := by
  intro session
  cases hlevels : task.levels with
  | zero =>
    obtain ⟨later, heq, hlater⟩ := lowerCall_none scope event session
    rw [handlerAt, heq]
    exact .of_idle_call hlater
  | succ levels =>
    rw [handlerAt]
    cases hcallee : calleeOf? scope.library event with
    | none =>
      obtain ⟨later, heq, hlater⟩ := lowerCall_of_none hcallee session
      rw [heq]
      exact .of_idle_call hlater
    | some callee =>
      rw [lowerCall_of_some hcallee]
      have hmember : callee ∈ callees scope task.origin.events :=
        List.mem_filterMap.mpr ⟨event, hevent, hcallee⟩
      rw [bound_of_calleeOf? hcallee] at hmember
      cases hsymbol : session.symbol? ⟨callee.custom, boundArgs event.args⟩ with
      | some symbol =>
        rw [sharedSymbol_of_some hsymbol]
        exact .refl _
      | none =>
        rw [sharedSymbol_of_none hsymbol]
        exact advances_enter hlevels hmember hsymbol
          (hbody ⟨.shared _, _, levels⟩ _ (by simp [hlevels]) _)

/-- Lowering the task on top is a sequence of moves. -/
lemma advances_lowerScript (task : Task) (rest : List Task) (session : Session) :
    Advances scope requests (task :: rest) session
      (lowerScript scope task.levels task.origin.events session).2 := by
  induction hlevels : task.levels using Nat.strongRecOn generalizing task rest session with
  | ind levels ih =>
    subst hlevels
    rw [lowerScript_eq]
    exact (threads_lowerEvents ⟨Advances.refl, fun _ _ _ => .trans⟩ task.origin.events fun _ =>
      keeps_advances_handlerAt fun below under hbelow s =>
        ih below.levels hbelow below under s rfl).related session

/-! ## Requests -/

/-- A request that is not skipped leaves a finished task. -/
def Answered (requests : List Request) (finished : List Task) : Prop :=
  ∀ request ∈ requests, request.isSkipped = false →
    ∃ task ∈ finished, task.origin = .entity request

/-- Moves do not take finished tasks back. -/
lemma finished_subset_of_moves {p q : Progress} (h : Moves scope requests p q) :
    p.finished ⊆ q.finished := by
  induction h with
  | refl => exact List.Subset.refl _
  | tail _ hmove ih =>
    cases hmove with
    | finish => exact List.subset_append_of_subset_left _ ih
    | _ => exact ih

lemma moves_compileScript {request : Request} (hrequest : request ∈ requests) (session : Session)
    (finished : List Task) :
    ∃ finished', Moves scope requests ⟨session, [], finished⟩
      ⟨(compileScript scope request session).2, [], finished'⟩ ∧
        (request.isSkipped = false → ∃ task ∈ finished', task.origin = .entity request) := by
  cases hskipped : request.isSkipped with
  | true =>
    rw [compileScript_of_skipped hskipped]
    exact ⟨finished, .refl, by simp⟩
  | false =>
    rw [compileScript_of_not_skipped hskipped]
    let task : Task := ⟨.entity request, (request.allocate session).1, maxNesting⟩
    have hadvances : Advances scope requests [task]
        { session with symbols := (request.allocate session).2 } _ :=
      advances_lowerScript task [] _
    obtain ⟨finished', hmoves⟩ := hadvances finished
    exact ⟨finished' ++ [task], (Relation.ReflTransGen.head (.begin hrequest hskipped) hmoves).tail
      (move_finish task [] finished' _), fun _ => ⟨task, by simp, rfl⟩⟩

lemma moves_compileAll {sublist : List Request} (hsublist : sublist ⊆ requests)
    (session : Session) (finished : List Task) :
    ∃ finished', Moves scope requests ⟨session, [], finished⟩
      ⟨compileAll scope sublist session, [], finished'⟩ ∧ Answered sublist finished' := by
  induction sublist generalizing session finished with
  | nil => exact ⟨finished, .refl, by simp [Answered]⟩
  | cons request rest ih =>
    rw [List.cons_subset] at hsublist
    obtain ⟨middle, hmiddle, hfirst⟩ := moves_compileScript hsublist.1 session finished
    obtain ⟨final, hfinal, hrest⟩ := ih hsublist.2 (compileScript scope request session).2 middle
    refine ⟨final, hmiddle.trans hfinal, ?_⟩
    rw [Answered, List.forall_mem_cons]
    refine ⟨fun hskipped => ?_, hrest⟩
    obtain ⟨task, htask, horigin⟩ := hfirst hskipped
    exact ⟨task, finished_subset_of_moves hfinal htask, horigin⟩

end Cartridge.Compile
