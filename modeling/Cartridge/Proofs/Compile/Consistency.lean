import Mathlib.Data.List.Nodup
import Cartridge.Proofs.Compile.Progress
import Cartridge.Proofs.Symbol.Freshness

/-!
# What every session keeps

`Consistent` collects what holds of a session and its tasks between any two moves: no symbol is
given twice, the table names exactly the shared tasks, the compiled scripts are those of the
finished tasks, and no task was begun without a reason.  Each move keeps it, so the session after
any list of requests has it (`exists_tasks`).  `Reached` says what there can be a reason for at all,
in any session.
-/

namespace Cartridge.Compile

open Cartridge.Script
open Cartridge.Tables (SceneEntry)

/-- All tasks, whether they wait or are finished. -/
def Progress.tasks (p : Progress) : List Task :=
  p.pending ++ p.finished

/-- A task that a request or a call in another task is the reason for.  Every task on the way is
one of `tasks`. -/
inductive Caused (scope : Scope) (requests : List Request) (tasks : List Task) : Task → Prop
  | entity {request symbol} (hrequest : request ∈ requests) (hskipped : request.isSkipped = false)
    (hmem : ⟨.entity request, symbol, maxNesting⟩ ∈ tasks) :
    Caused scope requests tasks ⟨.entity request, symbol, maxNesting⟩
  | shared {caller callee symbol levels} (hcaller : Caused scope requests tasks caller)
    (hlevels : caller.levels = levels + 1) (hcallee : callee ∈ callees scope caller.origin.events)
    (hmem : ⟨.shared callee, symbol, levels⟩ ∈ tasks) :
    Caused scope requests tasks ⟨.shared callee, symbol, levels⟩

/-- What holds of a session and its tasks between any two moves. -/
structure Consistent (scope : Scope) (requests : List Request) (p : Progress) : Prop where
  used : ∀ task ∈ p.tasks, p.session.symbols.isUsed task.symbol = true
  nodup : (p.tasks.map Task.symbol).Nodup
  table : ∀ key symbol, p.session.shared.lookup key = some symbol ↔
    ∃ callee levels, ⟨.shared callee, symbol, levels⟩ ∈ p.tasks ∧ callee.key = key
  compiled : p.session.compiled = p.finished.map (Task.script scope p.session)
  resolved : ∀ task ∈ p.finished, ∀ callee ∈ task.calls scope,
    ∃ symbol, p.session.symbol? callee = some symbol
  caused : ∀ task ∈ p.tasks, Caused scope requests p.tasks task

variable {scope : Scope} {requests : List Request}

/-- The tasks do not depend on the session, and the one on top is the first. -/
lemma tasks_cons (session later : Session) (task : Task) (rest finished : List Task) :
    Progress.tasks ⟨later, task :: rest, finished⟩ =
      task :: Progress.tasks ⟨session, rest, finished⟩ :=
  rfl

lemma Caused.mono {tasks tasks' : List Task} (h : tasks ⊆ tasks') {task : Task}
    (htask : Caused scope requests tasks task) : Caused scope requests tasks' task := by
  induction htask with
  | entity hrequest hskipped hmem => exact .entity hrequest hskipped (h hmem)
  | shared _ hlevels hcallee hmem ih => exact .shared ih hlevels hcallee (h hmem)

lemma Caused.mem {tasks : List Task} {task : Task} (h : Caused scope requests tasks task) :
    task ∈ tasks := by
  cases h with
  | entity _ _ hmem => exact hmem
  | shared _ _ _ hmem => exact hmem

namespace Consistent

/-! ## One case for each move -/

variable {p : Progress} {task : Task} {session : Session} {finished : List Task}

/-- Scripts that are finished stay as they are while the table grows. -/
lemma map_script_of_grows (h : Consistent scope requests p) {later : Session}
    (hgrows : p.session.Grows later) :
    p.finished.map (Task.script scope p.session) = p.finished.map (Task.script scope later) := by
  apply List.map_congr_left
  intro task htask
  apply Task.script_congr
  intro callee hcallee
  obtain ⟨symbol, hsymbol⟩ := h.resolved task htask callee hcallee
  rw [hgrows.symbolOf_eq hsymbol, (Session.Grows.refl _).symbolOf_eq hsymbol]

lemma resolved_of_grows (h : Consistent scope requests p) {later : Session}
    (hgrows : p.session.Grows later) :
    ∀ task ∈ p.finished, ∀ callee ∈ task.calls scope,
      ∃ symbol, later.symbol? callee = some symbol := by
  intro task htask callee hcallee
  obtain ⟨symbol, hsymbol⟩ := h.resolved task htask callee hcallee
  exact ⟨symbol, hgrows _ _ hsymbol⟩

lemma used_cons (h : Consistent scope requests p) {symbols : Symbol.Allocator}
    (htask : symbols.isUsed task.symbol = true)
    (hkeeps : ∀ name, p.session.symbols.isUsed name = true → symbols.isUsed name = true) :
    ∀ other ∈ task :: p.tasks, symbols.isUsed other.symbol = true := by
  rw [List.forall_mem_cons]
  exact ⟨htask, fun other hother => hkeeps _ (h.used other hother)⟩

lemma nodup_cons (h : Consistent scope requests p)
    (hnew : ¬p.session.symbols.isUsed task.symbol = true) :
    ((task :: p.tasks).map Task.symbol).Nodup := by
  rw [List.map_cons, List.nodup_cons]
  refine ⟨fun hmem => ?_, h.nodup⟩
  obtain ⟨other, hother, hsymbol⟩ := List.mem_map.mp hmem
  exact hnew (hsymbol ▸ h.used other hother)

lemma caused_cons (h : Consistent scope requests p)
    (hcaused : Caused scope requests (task :: p.tasks) task) :
    ∀ other ∈ task :: p.tasks, Caused scope requests (task :: p.tasks) other := by
  rw [List.forall_mem_cons]
  exact ⟨hcaused, fun other hother => (h.caused other hother).mono (List.subset_cons_self _ _)⟩

lemma warn {pending : List Task} (h : Consistent scope requests ⟨session, pending, finished⟩)
    (text : String) :
    Consistent scope requests ⟨session.warn text, pending, finished⟩ where
  used := h.used
  nodup := h.nodup
  table := h.table
  compiled := h.compiled.trans (h.map_script_of_grows (kept_grows.warn session text))
  resolved := h.resolved
  caused := h.caused

lemma begin {request : Request} (h : Consistent scope requests ⟨session, [], finished⟩)
    (hrequest : request ∈ requests) (hskipped : request.isSkipped = false) :
    Consistent scope requests
      ⟨{ session with symbols := (request.allocate session).2 },
        [⟨.entity request, (request.allocate session).1, maxNesting⟩], finished⟩ := by
  have hused : ∀ name, (request.allocate session).2.isUsed name = true ↔
      name ∈ Symbol.family (request.allocate session).1 ∨ session.symbols.isUsed name = true :=
    fun _ => Symbol.Allocator.isUsed_allocate
  have hfresh : ¬session.symbols.isUsed (request.allocate session).1 = true :=
    Symbol.Allocator.not_isUsed_allocate _ _ _
  have hself : (request.allocate session).1 ∈ Symbol.family (request.allocate session).1 :=
    List.mem_cons_self
  generalize request.allocate session = allocated at hused hfresh hself ⊢
  have hgrows : session.Grows { session with symbols := allocated.2 } := fun _ _ hkey => hkey
  constructor
  case used =>
    rw [tasks_cons session]
    exact h.used_cons ((hused _).mpr (.inl hself)) fun name hname => (hused name).mpr (.inr hname)
  case nodup =>
    rw [tasks_cons session]
    exact h.nodup_cons hfresh
  case table =>
    intro key symbol
    rw [h.table key symbol]
    simp [Progress.tasks]
  case compiled => exact h.compiled.trans (h.map_script_of_grows hgrows)
  case resolved => exact h.resolved
  case caused =>
    rw [tasks_cons session]
    exact h.caused_cons (.entity hrequest hskipped List.mem_cons_self)

lemma enter {rest : List Task} {levels : Nat} {callee : Callee}
    (h : Consistent scope requests ⟨session, task :: rest, finished⟩)
    (hlevels : task.levels = levels + 1) (hcallee : callee ∈ callees scope task.origin.events)
    (hnew : session.symbol? callee = none) :
    Consistent scope requests
      ⟨session.enter callee,
        ⟨.shared callee, session.symbols.allocateShared.1, levels⟩ :: task :: rest, finished⟩ where
  used := by
    rw [tasks_cons session]
    exact h.used_cons (Symbol.Allocator.isUsed_allocateShared.mpr (.inl rfl))
      fun _ hname => Symbol.Allocator.isUsed_allocateShared.mpr (.inr hname)
  nodup := by
    rw [tasks_cons session]
    exact h.nodup_cons (Symbol.Allocator.not_isUsed_allocateShared _)
  table key symbol := by
    constructor
    · intro hkey
      by_cases hsame : key = callee.key
      · subst hsame
        have hsymbol := (session.symbol?_enter callee).symm.trans hkey
        cases hsymbol
        exact ⟨callee, levels, List.mem_cons_self, rfl⟩
      · have hold : session.shared.lookup key = some symbol := by
          simpa [Session.enter, List.lookup_cons, beq_eq_false_iff_ne.mpr hsame] using hkey
        obtain ⟨other, below, hmem, hother⟩ := (h.table key symbol).mp hold
        exact ⟨other, below, List.mem_cons_of_mem _ hmem, hother⟩
    · rintro ⟨other, below, hmem, rfl⟩
      rcases List.mem_cons.mp hmem with heq | hmem
      · cases heq
        exact session.symbol?_enter callee
      · exact Session.grows_enter hnew _ _ ((h.table _ _).mpr ⟨other, below, hmem, rfl⟩)
  compiled := h.compiled.trans (h.map_script_of_grows (Session.grows_enter hnew))
  resolved := h.resolved_of_grows (Session.grows_enter hnew)
  caused := by
    rw [tasks_cons session]
    exact h.caused_cons (.shared ((h.caused task List.mem_cons_self).mono
      (List.subset_cons_self _ _)) hlevels hcallee List.mem_cons_self)

/-- The tasks stay the same when one of them is finished. -/
lemma perm_finish (session later : Session) (task : Task) (rest finished : List Task) :
    (Progress.tasks ⟨later, rest, finished ++ [task]⟩).Perm
      (Progress.tasks ⟨session, task :: rest, finished⟩) := by
  rw [Progress.tasks, Progress.tasks, ← List.append_assoc]
  exact List.perm_append_singleton task (rest ++ finished)

lemma finish {rest : List Task} (h : Consistent scope requests ⟨session, task :: rest, finished⟩)
    (hcalls : ∀ callee ∈ task.calls scope, ∃ symbol, session.symbol? callee = some symbol) :
    Consistent scope requests
      ⟨session.add (task.script scope session), rest, finished ++ [task]⟩ := by
  have hperm := perm_finish session (session.add (task.script scope session)) task rest finished
  constructor
  case used => exact fun other hother => h.used other (hperm.mem_iff.mp hother)
  case nodup => exact (hperm.map Task.symbol).nodup_iff.mpr h.nodup
  case table =>
    intro key symbol
    simp only [hperm.mem_iff]
    exact h.table key symbol
  case compiled =>
    show session.compiled ++ [task.script scope session] = _
    rw [List.map_append, h.compiled]
    rfl
  case resolved =>
    simp only [List.forall_mem_append, List.forall_mem_singleton]
    exact ⟨h.resolved, hcalls⟩
  case caused =>
    exact fun other hother => (h.caused other (hperm.mem_iff.mp hother)).mono hperm.symm.subset

/-! ## Runs -/

lemma of_move {q : Progress} (h : Consistent scope requests p) (hmove : Move scope requests p q) :
    Consistent scope requests q := by
  cases hmove with
  | warn _ _ _ text => exact h.warn text
  | begin hrequest hskipped => exact h.begin hrequest hskipped
  | enter hlevels hcallee hnew => exact h.enter hlevels hcallee hnew
  | finish hcalls => exact h.finish hcalls

lemma of_moves {q : Progress} (h : Consistent scope requests p)
    (hmoves : Moves scope requests p q) : Consistent scope requests q := by
  induction hmoves with
  | refl => exact h
  | tail _ hmove ih => exact ih.of_move hmove

/-- Nothing has happened yet. -/
lemma init (scope : Scope) (requests : List Request) (symbols : Symbol.Allocator) :
    Consistent scope requests ⟨{ symbols := symbols }, [], []⟩ where
  used := by simp [Progress.tasks]
  nodup := List.nodup_nil
  table := by simp [Progress.tasks]
  compiled := rfl
  resolved := by simp
  caused := by simp [Progress.tasks]

end Consistent

/-- The session after a list of requests comes with finished tasks that explain it. -/
lemma exists_tasks (scope : Scope) {requests order : List Request} (horder : order ⊆ requests)
    (symbols : Symbol.Allocator) :
    ∃ tasks, Consistent scope requests
      ⟨compileAll scope order { symbols := symbols }, [], tasks⟩ ∧ Answered order tasks := by
  obtain ⟨tasks, hmoves, hanswered⟩ := moves_compileAll horder { symbols := symbols } []
  exact ⟨tasks, (Consistent.init scope requests symbols).of_moves hmoves, hanswered⟩

/-- The session after scenes, in any order, comes with finished tasks that explain it. -/
lemma exists_tasks_scenes (scope : Scope) {entries order : List SceneEntry}
    (horder : entries.Perm order) (symbols : Symbol.Allocator) :
    ∃ tasks, Consistent scope (entries.flatMap (sceneRequests scope))
        ⟨(compileScenes scope order { symbols := symbols }).2, [], tasks⟩ ∧
      Answered (entries.flatMap (sceneRequests scope)) tasks := by
  have hperm := horder.flatMap_right (sceneRequests scope)
  obtain ⟨tasks, h, hanswered⟩ := exists_tasks scope hperm.symm.subset symbols
  rw [← compileScenes_snd] at h
  exact ⟨tasks, h, fun request hrequest => hanswered request (hperm.subset hrequest)⟩

/-! ## What can be reached -/

/-- What compiling requests can come to with `levels` levels left: the scripts of the requests
with all levels, and what a script with a level left calls. -/
inductive Reached (scope : Scope) (requests : List Request) : (levels : Nat) → Origin → Prop
  | entity {request} (hrequest : request ∈ requests) :
    Reached scope requests maxNesting (.entity request)
  | shared {levels caller callee} (hcaller : Reached scope requests (levels + 1) caller)
    (hcallee : callee ∈ callees scope caller.events) :
    Reached scope requests levels (.shared callee)

lemma Reached.levels_le {levels : Nat} {origin : Origin}
    (h : Reached scope requests levels origin) : levels ≤ maxNesting := by
  induction h with
  | entity => exact Nat.le_refl _
  | shared _ _ ih => exact Nat.le_of_succ_le ih

lemma Caused.reached {tasks : List Task} {task : Task} (h : Caused scope requests tasks task) :
    Reached scope requests task.levels task.origin := by
  induction h with
  | entity hrequest => exact .entity hrequest
  | shared _ hlevels hcallee _ ih => exact .shared (hlevels ▸ ih) hcallee

end Cartridge.Compile
