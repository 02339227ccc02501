import Mathlib.Algebra.Ring.Nat
import Mathlib.Data.List.Nodup
import Mathlib.Data.List.Perm.Basic
import Cartridge.Build.Pool

/-!
# A pool of workers

Jobs may be run by several workers at once.  They take items from a queue, look at the flag that
cancels the build and at the flag that a job has failed, and put results into a channel.  When all
of them are gone, the results are collected, the cancellation flag is looked at once more, and an
answer is given.

Every access to something shared is a step of its own, so a run (`Run`) is any interleaving of the
steps of the workers; the cancellation flag may be raised between any two of them.  What a job
comes to is left open: `ends i outcome` says that the job of item `i` may end so.  Items are known
by their places in the list of items.

The accounts of a run say where things are: what has come in so far is what has gone out and what
is still there (`Run.balance`).  Every step that is not a raise brings the answer nearer
(`Step.remaining_le`), and there is always one until the answer is given (`Run.exists_answer`).
-/

namespace Cartridge.Build.Pool

/-! ## Workers -/

/-- What is put into the channel. -/
abbrev Result := Except Error Unit

/-- Where a worker stands between two accesses to what is shared. -/
inductive Worker
  /-- It will ask for the next item. -/
  | idle
  /-- It has an item and will look at the cancellation flag. -/
  | holding (item : Nat)
  /-- It has an item and will look at the failure flag. -/
  | admitted (item : Nat)
  /-- It runs the job of an item. -/
  | running (item : Nat)
  /-- Its job has failed, and it will set the failure flag. -/
  | failing (error : Error)
  /-- It will send the result of a job. -/
  | reporting (result : Result)
  /-- It has seen that the build is cancelled, and will say so. -/
  | stopping
  | gone

/-- What the workers share. -/
structure Shared where
  queue : List Nat
  failed : Bool := false
  channel : List Result := []
  raised : Bool := false

/-- What a worker does in a step. -/
inductive Act
  | take (item : Nat)
  | leave
  | seeCancelled (item : Nat)
  | seeUncancelled (item : Nat)
  | seeFailed (item : Nat)
  | start (item : Nat)
  | finish (item : Nat) (outcome : Result)
  | markFailed
  | send (result : Result)

variable {ends : Nat → Result → Prop}

/-- A step of a worker. -/
inductive Move (ends : Nat → Result → Prop) : Shared → Worker → Act → Shared → Worker → Prop
  | take {s : Shared} {item : Nat} {rest : List Nat} (queue : s.queue = item :: rest) :
      Move ends s .idle (.take item) { s with queue := rest } (.holding item)
  | leave {s : Shared} (queue : s.queue = []) : Move ends s .idle .leave s .gone
  | seeCancelled {s : Shared} {item : Nat} (raised : s.raised = true) :
      Move ends s (.holding item) (.seeCancelled item) s .stopping
  | seeUncancelled {s : Shared} {item : Nat} (raised : s.raised = false) :
      Move ends s (.holding item) (.seeUncancelled item) s (.admitted item)
  | seeFailed {s : Shared} {item : Nat} (failed : s.failed = true) :
      Move ends s (.admitted item) (.seeFailed item) s .gone
  | start {s : Shared} {item : Nat} (failed : s.failed = false) :
      Move ends s (.admitted item) (.start item) s (.running item)
  | succeed {s : Shared} {item : Nat} (outcome : ends item (.ok ())) :
      Move ends s (.running item) (.finish item (.ok ())) s (.reporting (.ok ()))
  | fail {s : Shared} {item : Nat} {error : Error} (outcome : ends item (.error error)) :
      Move ends s (.running item) (.finish item (.error error)) s (.failing error)
  | markFailed {s : Shared} {error : Error} :
      Move ends s (.failing error) .markFailed { s with failed := true } (.reporting (.error error))
  | send {s : Shared} {result : Result} :
      Move ends s (.reporting result) (.send result)
        { s with channel := s.channel ++ [result] } .idle
  | sendCancelled {s : Shared} :
      Move ends s .stopping (.send (.error .cancelled))
        { s with channel := s.channel ++ [.error .cancelled] } .gone

/-! ## The pool -/

/-- What remains to be done when the workers are gone. -/
inductive Stage
  | waiting
  | cleared
  | answered (answer : Except Error Nat)

/-- A pool: what is shared, the workers, and what has been collected from the channel. -/
structure State extends Shared where
  workers : List Worker
  report : PoolReport := {}
  stage : Stage := .waiting

/-- A step of a pool. -/
inductive Event
  | worker (index : Nat) (act : Act)
  | raise
  | collect (result : Result)
  | check (raised : Bool)
  | answer (answer : Except Error Nat)

/-- The event is that the flag is raised. -/
def Event.isRaise : Event → Bool
  | .raise => true
  | _ => false

/-- The report with one more result; the first error stays. -/
def record (report : PoolReport) : Result → PoolReport
  | .ok () => { report with completed := report.completed + 1 }
  | .error e => { report with error := report.error.or (some e) }

/-- The answer where the build was not cancelled. -/
def verdict (report : PoolReport) : Except Error Nat :=
  match report.error with
  | some e => .error e
  | none => .ok report.completed

/-- A step of a pool: a worker moves, the flag is raised, or, when all workers are gone, a result is
collected, the flag is looked at and the answer given. -/
inductive Step (ends : Nat → Result → Prop) : State → Event → State → Prop
  | worker {p : State} {index : Nat} {before after : Worker} {act : Act} {shared : Shared}
      (found : p.workers[index]? = some before)
      (move : Move ends p.toShared before act shared after) :
      Step ends p (.worker index act)
        { p with toShared := shared, workers := p.workers.set index after }
  | raise {p : State} : Step ends p .raise { p with raised := true }
  | collect {p : State} {result : Result} {rest : List Result} (stage : p.stage = .waiting)
      (gone : ∀ worker ∈ p.workers, worker = .gone) (channel : p.channel = result :: rest) :
      Step ends p (.collect result)
        { p with channel := rest, report := record p.report result }
  | checkRaised {p : State} (stage : p.stage = .waiting)
      (gone : ∀ worker ∈ p.workers, worker = .gone) (channel : p.channel = [])
      (raised : p.raised = true) :
      Step ends p (.check true) { p with stage := .answered (.error .cancelled) }
  | checkClear {p : State} (stage : p.stage = .waiting)
      (gone : ∀ worker ∈ p.workers, worker = .gone) (channel : p.channel = [])
      (raised : p.raised = false) :
      Step ends p (.check false) { p with stage := .cleared }
  | answer {p : State} (stage : p.stage = .cleared) :
      Step ends p (.answer (verdict p.report)) { p with stage := .answered (verdict p.report) }

/-- A pool that is about to run the jobs of `n` items with at most `jobs` workers, but at least
one.  Without items there is nothing to do. -/
def initial (jobs n : Nat) : State where
  queue := List.range n
  workers := List.replicate (min (max jobs 1) n) .idle
  stage := if n = 0 then .answered (.ok 0) else .waiting

/-- A run from a state, with what happened, the latest event last. -/
inductive Run (ends : Nat → Result → Prop) (p : State) : List Event → State → Prop
  | nil : Run ends p [] p
  | snoc {events : List Event} {q r : State} {event : Event} (run : Run ends p events q)
      (step : Step ends q event r) : Run ends p (events ++ [event]) r

lemma Run.trans {p q r : State} {events more : List Event} (first : Run ends p events q)
    (second : Run ends q more r) : Run ends p (events ++ more) r := by
  induction second with
  | nil => rwa [List.append_nil]
  | snoc _ step ih =>
    rw [← List.append_assoc]
    exact ih.snoc step

lemma Run.single {p q : State} {event : Event} (step : Step ends p event q) :
    Run ends p [event] q :=
  Run.nil.snoc step

/-! ## Accounts -/

/-- The sum over the workers, where one of them changes. -/
lemma sum_map_set (amount : Worker → Nat) {workers : List Worker} {index : Nat} {before : Worker}
    (h : workers[index]? = some before) (after : Worker) :
    ((workers.set index after).map amount).sum + amount before =
      (workers.map amount).sum + amount after := by
  induction workers generalizing index with
  | nil => cases h
  | cons worker rest ih =>
    cases index with
    | zero =>
      cases h
      simp only [List.set_cons_zero, List.map_cons, List.sum_cons]
      omega
    | succ index =>
      have hrest := ih h
      simp only [List.set_cons_succ, List.map_cons, List.sum_cons]
      omega

/-- What the workers have of something, where one of them changes. -/
lemma count_flatMap_set {β : Type} [DecidableEq β] (stock : Worker → List β) {workers : List Worker}
    {index : Nat} {before : Worker} (h : workers[index]? = some before) (after : Worker) (b : β) :
    ((workers.set index after).flatMap stock).count b + (stock before).count b =
      (workers.flatMap stock).count b + (stock after).count b := by
  rw [List.count_flatMap, List.count_flatMap]
  exact sum_map_set (List.count b ∘ stock) h after

/-- What came in is what went out and what is there, if every step keeps it so. -/
lemma Run.balance {β : Type} [DecidableEq β] {income outgo : Event → List β}
    {stock : State → List β} (b : β)
    (hstep : ∀ p event q, Step ends p event q →
      (income event).count b + (stock p).count b = (outgo event).count b + (stock q).count b)
    {p q : State} {events : List Event} (run : Run ends p events q) :
    (events.flatMap income).count b + (stock p).count b =
      (events.flatMap outgo).count b + (stock q).count b := by
  induction run with
  | nil => rfl
  | snoc _ step ih =>
    have hlast := hstep _ _ _ step
    simp only [List.flatMap_append, List.flatMap_singleton, List.count_append]
    omega

/-- The items that are taken from the queue in a step. -/
def Event.taken : Event → List Nat
  | .worker _ (.take item) => [item]
  | _ => []

/-- The items whose jobs are started in a step. -/
def Event.started : Event → List Nat
  | .worker _ (.start item) => [item]
  | _ => []

/-- The items that are given up in a step because of a flag. -/
def Event.dropped : Event → List Nat
  | .worker _ (.seeCancelled item) => [item]
  | .worker _ (.seeFailed item) => [item]
  | _ => []

/-- The items whose jobs end in a step. -/
def Event.finished : Event → List Nat
  | .worker _ (.finish item _) => [item]
  | _ => []

/-- The results that come up in a step, to be sent later. -/
def Event.announced : Event → List Result
  | .worker _ (.finish _ outcome) => [outcome]
  | .worker _ (.seeCancelled _) => [.error .cancelled]
  | _ => []

/-- The results that are collected in a step. -/
def Event.collected : Event → List Result
  | .collect result => [result]
  | _ => []

/-- The items that a worker has taken but not started. -/
def Worker.held : Worker → List Nat
  | .holding item => [item]
  | .admitted item => [item]
  | _ => []

/-- The items whose jobs a worker is running. -/
def Worker.job : Worker → List Nat
  | .running item => [item]
  | _ => []

/-- The results that a worker has still to send. -/
def Worker.unsent : Worker → List Result
  | .failing error => [.error error]
  | .reporting result => [result]
  | .stopping => [.error .cancelled]
  | _ => []

/-- The results that have not been collected. -/
def State.pending (p : State) : List Result :=
  p.channel ++ p.workers.flatMap Worker.unsent

lemma Step.balance_queue {p q : State} {event : Event} (step : Step ends p event q) :
    p.queue = event.taken ++ q.queue := by
  cases step with
  | worker found move =>
    cases move with
    | take queue => exact queue
    | _ => rfl
  | _ => rfl

lemma Step.balance_held {p q : State} {event : Event} (i : Nat) (step : Step ends p event q) :
    event.taken.count i + (p.workers.flatMap Worker.held).count i =
      (event.started ++ event.dropped).count i + (q.workers.flatMap Worker.held).count i := by
  cases step with
  | @worker _ _ after _ _ found move =>
    have hset := count_flatMap_set Worker.held found after i
    cases move <;>
      simp only [Worker.held, Event.taken, Event.started, Event.dropped, List.nil_append,
        List.append_nil, List.count_nil] at hset ⊢ <;> omega
  | _ => rfl

lemma Step.balance_job {p q : State} {event : Event} (i : Nat) (step : Step ends p event q) :
    event.started.count i + (p.workers.flatMap Worker.job).count i =
      event.finished.count i + (q.workers.flatMap Worker.job).count i := by
  cases step with
  | @worker _ _ after _ _ found move =>
    have hset := count_flatMap_set Worker.job found after i
    cases move <;>
      simp only [Worker.job, Event.started, Event.finished, List.count_nil] at hset ⊢ <;> omega
  | _ => rfl

/-- A result that came up has been collected, or is on the way. -/
lemma Step.balance_pending {p q : State} {event : Event} (r : Result) (step : Step ends p event q) :
    event.announced.count r + p.pending.count r =
      event.collected.count r + q.pending.count r := by
  unfold State.pending
  cases step with
  | @worker _ _ after _ _ found move =>
    have hset := count_flatMap_set Worker.unsent found after r
    cases move <;>
      simp only [Worker.unsent, Event.announced, Event.collected, List.count_nil,
        List.count_append] at hset ⊢ <;> omega
  | collect _ _ channel =>
    rw [channel, List.cons_append, List.count_cons]
    simp only [Event.announced, Event.collected, List.count_nil, List.count_singleton]
    omega
  | _ => rfl

/-! ### Accounts of whole runs -/

section Accounts

variable {jobs n : Nat} {events : List Event} {p : State}

lemma Run.queue_eq {q : State} (run : Run ends p events q) :
    p.queue = events.flatMap Event.taken ++ q.queue := by
  induction run with
  | nil => rfl
  | snoc _ step ih =>
    rw [ih, step.balance_queue, List.flatMap_append, List.flatMap_singleton, List.append_assoc]

lemma flatMap_initial {β : Type} (jobs n : Nat) {stock : Worker → List β} (h : stock .idle = []) :
    (initial jobs n).workers.flatMap stock = [] := by
  refine List.flatMap_eq_nil_iff.mpr fun worker hworker => ?_
  rw [List.eq_of_mem_replicate hworker, h]

section

variable (run : Run ends (initial jobs n) events p)

include run

lemma Run.count_taken (i : Nat) :
    (events.flatMap Event.taken).count i =
      (events.flatMap Event.started).count i + (events.flatMap Event.dropped).count i +
        (p.workers.flatMap Worker.held).count i := by
  have hbalance := run.balance i fun _ _ _ => Step.balance_held i
  rw [flatMap_initial jobs n rfl, List.count_nil, Nat.add_zero] at hbalance
  have hsplit := (List.flatMap_append_perm events Event.started Event.dropped).count_eq i
  rw [hbalance, ← hsplit, List.count_append]

lemma Run.count_started (i : Nat) :
    (events.flatMap Event.started).count i =
      (events.flatMap Event.finished).count i + (p.workers.flatMap Worker.job).count i := by
  have hbalance := run.balance i fun _ _ _ => Step.balance_job i
  rwa [flatMap_initial jobs n rfl] at hbalance

/-- A result that came up has been collected, or is on the way. -/
lemma Run.count_announced (r : Result) :
    (events.flatMap Event.announced).count r =
      (events.flatMap Event.collected).count r + p.pending.count r := by
  have hbalance := run.balance r fun _ _ _ => Step.balance_pending r
  have hpending : (initial jobs n).pending = [] := flatMap_initial jobs n rfl
  rwa [hpending] at hbalance

lemma Run.count_taken_le (i : Nat) :
    (events.flatMap Event.taken).count i ≤ (List.range n).count i := by
  have hqueue : List.range n = events.flatMap Event.taken ++ p.queue := run.queue_eq
  rw [hqueue, List.count_append]
  exact Nat.le_add_right _ _

/-- No item is started twice. -/
lemma Run.count_started_le_one (i : Nat) : (events.flatMap Event.started).count i ≤ 1 := by
  have htaken := run.count_taken i
  have hrange := run.count_taken_le i
  have honce : (List.range n).count i ≤ 1 := List.nodup_iff_count_le_one.mp List.nodup_range i
  omega

/-- A worker runs the jobs of items only. -/
lemma Run.lt_of_mem_job {worker : Worker} (hworker : worker ∈ p.workers) {i : Nat}
    (hi : i ∈ worker.job) : i < n := by
  have hmem : i ∈ p.workers.flatMap Worker.job := List.mem_flatMap.mpr ⟨worker, hworker, hi⟩
  have hjob := List.count_pos_iff.mpr hmem
  have hstarted := run.count_started i
  have htaken := run.count_taken i
  have hrange := run.count_taken_le i
  exact List.mem_range.mp (List.count_pos_iff.mp (by omega))

end

end Accounts

/-! ## The answer is reached -/

/-- The steps that a worker may have to take before it needs another item, and one more for each
result to collect. -/
def Worker.effort : Worker → Nat
  | .idle => 1
  | .holding _ => 7
  | .admitted _ => 6
  | .running _ => 5
  | .failing _ => 4
  | .reporting _ => 3
  | .stopping => 2
  | .gone => 0

/-- The steps that are left at the end. -/
def Stage.effort : Stage → Nat
  | .waiting => 2
  | .cleared => 1
  | .answered _ => 0

/-- A bound for the number of steps, other than raising the flag, until the answer is given. -/
def State.remaining (p : State) : Nat :=
  7 * p.queue.length + p.channel.length + (p.workers.map Worker.effort).sum + p.stage.effort

/-- Every step but a raise brings the answer nearer, and a raise does not put it off. -/
lemma Step.remaining_le {p q : State} {event : Event} (step : Step ends p event q) :
    q.remaining ≤ p.remaining ∧ (event ≠ .raise → q.remaining < p.remaining) := by
  unfold State.remaining
  cases step with
  | @worker _ _ after _ _ found move =>
    have hset := sum_map_set Worker.effort found after
    cases move with
    | take queue =>
      rw [queue]
      simp only [Worker.effort, List.length_cons] at hset ⊢
      omega
    | _ => simp only [Worker.effort, List.length_append, List.length_singleton] at hset ⊢; omega
  | raise => exact ⟨Nat.le_refl _, fun h => absurd rfl h⟩
  | collect _ _ channel =>
    rw [channel, List.length_cons]
    dsimp only
    omega
  | checkRaised stage | checkClear stage | answer stage =>
    rw [stage]
    dsimp only [Stage.effort]
    omega

/-- The steps of a run, raises aside, are bounded from the start. -/
lemma Run.remaining_le {p q : State} {events : List Event} (run : Run ends p events q) :
    events.countP (!·.isRaise) + q.remaining ≤ p.remaining := by
  induction run with
  | nil => exact Nat.le_of_eq (Nat.zero_add _)
  | @snoc events _ _ event _ step ih =>
    have hstep := step.remaining_le
    rw [List.countP_append, List.countP_singleton]
    cases event with
    | raise => exact Nat.le_trans (Nat.add_le_add_left hstep.1 _) ih
    | _ =>
      have hlt := hstep.2 Event.noConfusion
      refine Nat.le_trans ?_ ih
      change events.countP _ + 1 + _ ≤ _
      omega

lemma remaining_initial_le (jobs n : Nat) : (initial jobs n).remaining ≤ 8 * n + 2 := by
  have hworkers : ((initial jobs n).workers.map Worker.effort).sum = min (max jobs 1) n := by
    rw [initial, List.map_replicate, Worker.effort, List.sum_replicate_nat, Nat.mul_one]
  have hstage : (initial jobs n).stage.effort ≤ 2 := by
    unfold initial
    dsimp only
    split_ifs <;> decide
  have hqueue : (initial jobs n).queue.length = n := List.length_range
  have hchannel : (initial jobs n).channel.length = 0 := rfl
  unfold State.remaining
  omega

lemma Worker.exists_move (s : Shared) {worker : Worker} (hgone : worker ≠ .gone)
    (hends : ∀ i ∈ worker.job, ∃ outcome, ends i outcome) :
    ∃ act shared after, Move ends s worker act shared after := by
  cases worker with
  | idle =>
    cases hqueue : s.queue with
    | nil => exact ⟨_, _, _, .leave hqueue⟩
    | cons item rest => exact ⟨_, _, _, .take hqueue⟩
  | holding item =>
    cases hraised : s.raised with
    | true => exact ⟨_, _, _, .seeCancelled hraised⟩
    | false => exact ⟨_, _, _, .seeUncancelled hraised⟩
  | admitted item =>
    cases hfailed : s.failed with
    | true => exact ⟨_, _, _, .seeFailed hfailed⟩
    | false => exact ⟨_, _, _, .start hfailed⟩
  | running item =>
    obtain ⟨outcome, houtcome⟩ := hends item List.mem_cons_self
    cases outcome with
    | ok => exact ⟨_, _, _, .succeed houtcome⟩
    | error e => exact ⟨_, _, _, .fail houtcome⟩
  | failing e => exact ⟨_, _, _, .markFailed⟩
  | reporting result => exact ⟨_, _, _, .send⟩
  | stopping => exact ⟨_, _, _, .sendCancelled⟩
  | gone => exact absurd rfl hgone

/-- Until the answer is given there is a step other than raising the flag. -/
lemma exists_step {p : State} (hstage : ∀ answer, p.stage ≠ .answered answer)
    (hends : ∀ worker ∈ p.workers, ∀ i ∈ worker.job, ∃ outcome, ends i outcome) :
    ∃ event q, event ≠ .raise ∧ Step ends p event q := by
  cases hwhich : p.stage with
  | answered answer => exact absurd hwhich (hstage answer)
  | cleared => exact ⟨_, _, Event.noConfusion, .answer hwhich⟩
  | waiting =>
    by_cases hgone : ∀ worker ∈ p.workers, worker = .gone
    · cases hchannel : p.channel with
      | cons result rest => exact ⟨_, _, Event.noConfusion, .collect hwhich hgone hchannel⟩
      | nil =>
        cases hraised : p.raised with
        | true => exact ⟨_, _, Event.noConfusion, .checkRaised hwhich hgone hchannel hraised⟩
        | false => exact ⟨_, _, Event.noConfusion, .checkClear hwhich hgone hchannel hraised⟩
    · push Not at hgone
      obtain ⟨worker, hmem, hne⟩ := hgone
      obtain ⟨index, hindex⟩ := List.mem_iff_getElem?.mp hmem
      obtain ⟨act, shared, after, hmove⟩ :=
        Worker.exists_move p.toShared hne (hends worker hmem)
      exact ⟨_, _, Event.noConfusion, .worker hindex hmove⟩

/-- Every run can be continued until the answer is given. -/
lemma Run.exists_answer {jobs n : Nat} (hends : ∀ i < n, ∃ outcome, ends i outcome)
    {events : List Event} {p : State} (run : Run ends (initial jobs n) events p) :
    ∃ more q answer, Run ends p more q ∧ q.stage = .answered answer := by
  induction hremaining : p.remaining using Nat.strongRecOn generalizing events p with
  | _ m ih =>
    by_cases hstage : ∃ answer, p.stage = .answered answer
    · obtain ⟨answer, hanswer⟩ := hstage
      exact ⟨[], p, answer, .nil, hanswer⟩
    · push Not at hstage
      obtain ⟨event, q, hevent, hstep⟩ := exists_step hstage fun worker hworker i hi =>
        hends i (run.lt_of_mem_job hworker hi)
      have hlt := hstep.remaining_le.2 hevent
      obtain ⟨more, r, answer, hmore, hanswer⟩ := ih _ (hremaining ▸ hlt) (run.snoc hstep) rfl
      exact ⟨_, r, answer, (Run.single hstep).trans hmore, hanswer⟩

end Cartridge.Build.Pool
