import Cartridge.Proofs.Build.Workers

/-!
# What the answer of a pool says

What a worker sees, and where it stands, is grounded in what happened before (`Grounded`): the
cancellation flag is up when it was raised, the failure flag when a job failed, and a worker leaves
a queue that is not empty only after it has seen one of the flags.

The moment of the last look at the cancellation flag divides a run.  Before it, all workers have
gone and all results are collected; after it, nothing happens but raises and the answer
(`Run.answer_cases`).  With the accounts of the run this settles what the answer means
(`Run.faithful`).
-/

namespace Cartridge.Build.Pool

variable {ends : Nat → Result → Prop} {jobs n : Nat} {events : List Event} {p q : State}

/-! ## What a run has seen -/

/-- A job ended with an error. -/
def JobFailed (events : List Event) (error : Error) : Prop :=
  ∃ index item, .worker index (.finish item (.error error)) ∈ events

/-- A worker saw that the build is cancelled. -/
def SawCancelled (events : List Event) : Prop :=
  ∃ index item, .worker index (.seeCancelled item) ∈ events

/-- A worker saw that a job has failed. -/
def SawFailed (events : List Event) : Prop :=
  ∃ index item, .worker index (.seeFailed item) ∈ events

/-- The cancellation flag was raised before it was looked at for the last time. -/
def RaisedBeforeCheck (events : List Event) : Prop :=
  ∃ earlier raised later, events = earlier ++ .check raised :: later ∧ .raise ∈ earlier

lemma JobFailed.append {error : Error} (h : JobFailed events error) (more : List Event) :
    JobFailed (events ++ more) error := by
  obtain ⟨index, item, hmem⟩ := h
  exact ⟨index, item, List.mem_append_left more hmem⟩

lemma SawCancelled.append (h : SawCancelled events) (more : List Event) :
    SawCancelled (events ++ more) := by
  obtain ⟨index, item, hmem⟩ := h
  exact ⟨index, item, List.mem_append_left more hmem⟩

lemma SawFailed.append (h : SawFailed events) (more : List Event) :
    SawFailed (events ++ more) := by
  obtain ⟨index, item, hmem⟩ := h
  exact ⟨index, item, List.mem_append_left more hmem⟩

/-- Why a worker may stand where it stands. -/
def Worker.Justified (events : List Event) (queue : List Nat) : Worker → Prop
  | .failing error => JobFailed events error
  | .stopping => SawCancelled events
  | .gone => queue = [] ∨ SawCancelled events ∨ SawFailed events
  | _ => True

/-- Later a worker is still justified; the queue never fills again. -/
lemma Worker.Justified.later {worker : Worker} {queue rest : List Nat}
    (h : worker.Justified events queue) (event : Event) (hqueue : queue = [] → rest = []) :
    worker.Justified (events ++ [event]) rest := by
  cases worker with
  | failing error => exact JobFailed.append h [event]
  | stopping => exact SawCancelled.append h [event]
  | gone =>
    rcases h with h | h | h
    · exact .inl (hqueue h)
    · exact .inr (.inl (h.append [event]))
    · exact .inr (.inr (h.append [event]))
  | _ => trivial

variable {event : Event} {s shared : Shared} {before after : Worker} {act : Act} {index : Nat}

lemma Move.justified (move : Move ends s before act shared after)
    (h : before.Justified events s.queue) (index : Nat) :
    after.Justified (events ++ [.worker index act]) shared.queue := by
  have hlast : Event.worker index act ∈ events ++ [.worker index act] :=
    List.mem_append_right events List.mem_cons_self
  cases move with
  | leave queue => exact .inl queue
  | seeCancelled => exact ⟨_, _, hlast⟩
  | seeFailed => exact .inr (.inr ⟨_, _, hlast⟩)
  | fail => exact ⟨_, _, hlast⟩
  | sendCancelled => exact .inr (.inl (SawCancelled.append h _))
  | _ => trivial

/-- The flags, and what the workers saw of them, have causes in what happened. -/
structure Grounded (events : List Event) (p : State) : Prop where
  raised_iff : p.raised = true ↔ .raise ∈ events
  cancelled : SawCancelled events → .raise ∈ events
  failed : p.failed = true → ∃ error, JobFailed events error
  seenFailed : SawFailed events → ∃ error, JobFailed events error
  workers : ∀ worker ∈ p.workers, worker.Justified events p.queue

lemma grounded_initial (jobs n : Nat) : Grounded [] (initial jobs n) where
  raised_iff := iff_of_false Bool.false_ne_true List.not_mem_nil
  cancelled := fun ⟨_, _, h⟩ => absurd h List.not_mem_nil
  failed h := absurd h Bool.false_ne_true
  seenFailed := fun ⟨_, _, h⟩ => absurd h List.not_mem_nil
  workers worker hworker := by
    rw [List.eq_of_mem_replicate hworker]
    trivial

lemma Move.raised_eq (move : Move ends s before act shared after) : shared.raised = s.raised := by
  cases move <;> rfl

lemma Move.failed_of (move : Move ends s before act shared after) (h : shared.failed = true) :
    s.failed = true ∨ ∃ error, before = .failing error := by
  cases move with
  | @markFailed error => exact .inr ⟨error, rfl⟩
  | _ => exact .inl h

lemma Grounded.step (h : Grounded events p) (step : Step ends p event q) :
    Grounded (events ++ [event]) q where
  raised_iff := by
    rw [List.mem_append, List.mem_singleton, ← h.raised_iff]
    cases step with
    | worker found move => simp [move.raised_eq]
    | raise => simp
    | _ => simp
  cancelled := by
    rintro ⟨index, item, hmem⟩
    refine List.mem_append_left _ ?_
    rcases List.mem_append.mp hmem with hold | hnew
    · exact h.cancelled ⟨index, item, hold⟩
    · obtain rfl := List.mem_singleton.mp hnew
      cases step with
      | worker found move =>
        cases move with
        | seeCancelled raised => exact h.raised_iff.mp raised
  failed := by
    intro hfailed
    have hold : p.failed = true → ∃ error, JobFailed (events ++ [event]) error := fun hbefore =>
      (h.failed hbefore).imp fun error herror => herror.append [event]
    cases step with
    | worker found move =>
      rcases move.failed_of hfailed with hbefore | ⟨error, rfl⟩
      · exact hold hbefore
      · have hjob : JobFailed events error := h.workers _ (List.mem_of_getElem? found)
        exact ⟨error, hjob.append _⟩
    | _ => exact hold hfailed
  seenFailed := by
    rintro ⟨index, item, hmem⟩
    have hfailed : ∃ error, JobFailed events error := by
      rcases List.mem_append.mp hmem with hold | hnew
      · exact h.seenFailed ⟨index, item, hold⟩
      · obtain rfl := List.mem_singleton.mp hnew
        cases step with
        | worker found move =>
          cases move with
          | seeFailed failed => exact h.failed failed
    exact hfailed.imp fun error herror => herror.append [event]
  workers := by
    intro worker hworker
    have hqueue : p.queue = [] → q.queue = [] := by
      intro hnil
      have hstep := step.balance_queue
      rw [hnil] at hstep
      exact (List.append_eq_nil_iff.mp hstep.symm).2
    have hold : worker ∈ p.workers → worker.Justified (events ++ [event]) q.queue := fun hmem =>
      (h.workers worker hmem).later event hqueue
    cases step with
    | worker found move =>
      rcases List.mem_or_eq_of_mem_set hworker with hmem | rfl
      · exact hold hmem
      · exact move.justified (h.workers _ (List.mem_of_getElem? found)) _
    | _ => exact hold hworker

lemma Run.grounded (run : Run ends (initial jobs n) events p) : Grounded events p := by
  induction run with
  | nil => exact grounded_initial jobs n
  | snoc _ step ih => exact ih.step step

/-! ## Workers that have seen a flag -/

/-- A worker sees that one of the flags is up. -/
def Event.SeesFlag (event : Event) (index : Nat) : Prop :=
  ∃ item, event = .worker index (.seeCancelled item) ∨ event = .worker index (.seeFailed item)

/-- The worker takes no more items. -/
def Worker.Leaving (worker : Worker) : Prop :=
  worker = .stopping ∨ worker = .gone

lemma Move.leaving (move : Move ends s before act shared after) (h : before.Leaving) :
    after.Leaving := by
  rcases h with rfl | rfl
  · cases move
    exact .inr rfl
  · cases move

lemma Step.leaving_of_seesFlag (step : Step ends p event q) (h : event.SeesFlag index) :
    ∃ worker, q.workers[index]? = some worker ∧ worker.Leaving := by
  obtain ⟨item, rfl | rfl⟩ := h
  · cases step with
    | worker found move =>
      obtain ⟨hlt, -⟩ := List.getElem?_eq_some_iff.mp found
      cases move
      exact ⟨_, List.getElem?_set_self hlt, .inl rfl⟩
  · cases step with
    | worker found move =>
      obtain ⟨hlt, -⟩ := List.getElem?_eq_some_iff.mp found
      cases move
      exact ⟨_, List.getElem?_set_self hlt, .inr rfl⟩

lemma Step.leaving {worker : Worker} (step : Step ends p event q)
    (hfound : p.workers[index]? = some worker) (hworker : worker.Leaving) :
    ∃ worker, q.workers[index]? = some worker ∧ worker.Leaving := by
  cases step with
  | @worker moved before after _ _ found move =>
    by_cases hsame : moved = index
    · subst hsame
      obtain ⟨hlt, -⟩ := List.getElem?_eq_some_iff.mp found
      obtain rfl : before = worker := Option.some.inj (found.symm.trans hfound)
      exact ⟨after, List.getElem?_set_self hlt, move.leaving hworker⟩
    · exact ⟨worker, (List.getElem?_set_ne hsame).trans hfound, hworker⟩
  | _ => exact ⟨worker, hfound, hworker⟩

lemma Run.leaving_of_seesFlag (run : Run ends p events q) (hmem : event ∈ events)
    (hsees : event.SeesFlag index) :
    ∃ worker, q.workers[index]? = some worker ∧ worker.Leaving := by
  induction run with
  | nil => exact absurd hmem List.not_mem_nil
  | snoc _ step ih =>
    rcases List.mem_append.mp hmem with hold | hnew
    · obtain ⟨worker, hfound, hworker⟩ := ih hold
      exact step.leaving hfound hworker
    · obtain rfl := List.mem_singleton.mp hnew
      exact step.leaving_of_seesFlag hsees

/-- No worker starts a job after it has seen a flag. -/
lemma Run.pairwise_not_start (run : Run ends p events q) :
    events.Pairwise fun earlier later =>
      ∀ index item, earlier.SeesFlag index → later ≠ .worker index (.start item) := by
  induction run with
  | nil => exact List.Pairwise.nil
  | snoc run step ih =>
    refine List.pairwise_append.mpr ⟨ih, List.pairwise_singleton _ _, ?_⟩
    rintro earlier hearlier later hlater index item hsees rfl
    obtain rfl := List.mem_singleton.mp hlater
    obtain ⟨worker, hfound, hleaving⟩ := run.leaving_of_seesFlag hearlier hsees
    cases step with
    | worker found move =>
      obtain rfl := Option.some.inj (found.symm.trans hfound)
      cases move
      rcases hleaving with h | h <;> cases h

/-! ## The last look at the flag -/

lemma Run.split {r : State} {earlier later : List Event} (run : Run ends p events r)
    (h : events = earlier ++ later) : ∃ q, Run ends p earlier q ∧ Run ends q later r := by
  induction run generalizing later with
  | nil =>
    obtain ⟨rfl, rfl⟩ := List.append_eq_nil_iff.mp h.symm
    exact ⟨p, .nil, .nil⟩
  | @snoc events _ r event run step ih =>
    rcases later.eq_nil_or_concat' with rfl | ⟨front, last, rfl⟩
    · rw [List.append_nil] at h
      exact ⟨r, h ▸ run.snoc step, .nil⟩
    · rw [← List.append_assoc] at h
      obtain ⟨hfront, hlast⟩ := List.append_inj' h rfl
      obtain rfl := List.head_eq_of_cons_eq hlast
      obtain ⟨q, hearlier, hlater⟩ := ih hfront
      exact ⟨q, hearlier, hlater.snoc step⟩

lemma Run.eq_of_nil (run : Run ends p events q) (h : events = []) : q = p := by
  cases run with
  | nil => rfl
  | snoc => exact absurd h (List.append_ne_nil_of_right_ne_nil _ (List.cons_ne_nil _ _))

lemma Run.of_cons {r : State} (run : Run ends p (event :: events) r) :
    ∃ q, Step ends p event q ∧ Run ends q events r := by
  have hcons : event :: events = [event] ++ events := rfl
  obtain ⟨q, hfirst, hrest⟩ := run.split hcons
  refine ⟨q, ?_, hrest⟩
  generalize hevents : [event] = first at hfirst
  cases hfirst with
  | nil => cases hevents
  | snoc hnone hstep =>
    rw [← List.nil_append [event]] at hevents
    obtain ⟨hnil, hevent⟩ := List.append_inj' hevents rfl
    obtain rfl := hnone.eq_of_nil hnil.symm
    exact List.head_eq_of_cons_eq hevent ▸ hstep

/-- All workers are gone and no result is on its way. -/
structure Quiet (p : State) : Prop where
  gone : ∀ worker ∈ p.workers, worker = .gone
  channel : p.channel = []

/-- When all is quiet and the flag has been looked at, only the answer is left. -/
lemma Step.of_quiet (step : Step ends p event q) (h : Quiet p) (hstage : p.stage ≠ .waiting) :
    Quiet q ∧ q.report = p.report ∧
      (event = .raise ∧ q.stage = p.stage ∨
        event = .answer (verdict p.report) ∧ p.stage = .cleared ∧
          q.stage = .answered (verdict p.report)) := by
  cases step with
  | worker found move =>
    obtain rfl := h.gone _ (List.mem_of_getElem? found)
    cases move
  | raise => exact ⟨⟨h.gone, h.channel⟩, rfl, .inl ⟨rfl, rfl⟩⟩
  | collect stage | checkRaised stage | checkClear stage => exact absurd stage hstage
  | answer stage => exact ⟨⟨h.gone, h.channel⟩, rfl, .inr ⟨rfl, stage, rfl⟩⟩

lemma Run.of_quiet (run : Run ends p events q) (h : Quiet p) (hstage : p.stage ≠ .waiting) :
    Quiet q ∧ q.report = p.report ∧ q.stage ≠ .waiting ∧
      (∀ event ∈ events, event = .raise ∨ ∃ answer, event = .answer answer) ∧
      (q.stage = p.stage ∨ p.stage = .cleared ∧ q.stage = .answered (verdict p.report)) := by
  induction run with
  | nil => exact ⟨h, rfl, hstage, List.forall_mem_nil _, .inl rfl⟩
  | snoc _ step ih =>
    obtain ⟨hquiet, hreport, hnot, hevents, hprogress⟩ := ih
    obtain ⟨hquiet', hreport', hlast⟩ := step.of_quiet hquiet hnot
    refine ⟨hquiet', hreport'.trans hreport, ?_⟩
    rcases hlast with ⟨rfl, hsame⟩ | ⟨rfl, hcleared, hanswered⟩
    · rw [hsame]
      refine ⟨hnot, List.forall_mem_append.mpr ⟨hevents, ?_⟩, hprogress⟩
      exact List.forall_mem_singleton.mpr (.inl rfl)
    · rw [hanswered, hreport]
      refine ⟨Stage.noConfusion, List.forall_mem_append.mpr ⟨hevents, ?_⟩, .inr ⟨?_, rfl⟩⟩
      · exact List.forall_mem_singleton.mpr (.inr ⟨_, rfl⟩)
      · rcases hprogress with hsame | ⟨hbefore, -⟩
        · rw [← hsame, hcleared]
        · exact hbefore

/-- The stage after the last look at the flag. -/
def stageAfter (raised : Bool) : Stage :=
  if raised then .answered (.error .cancelled) else .cleared

lemma Step.of_check {raised : Bool} (step : Step ends p (.check raised) q) :
    p.raised = raised ∧ Quiet q ∧ q.stage = stageAfter raised := by
  cases step with
  | checkRaised _ gone channel raised => exact ⟨raised, ⟨gone, channel⟩, rfl⟩
  | checkClear _ gone channel raised => exact ⟨raised, ⟨gone, channel⟩, rfl⟩

/-- The last look divides a run: the flag is up exactly when it was raised before, and afterwards
nothing happens but raises and the answer. -/
lemma Run.of_check {earlier later : List Event} {raised : Bool}
    (run : Run ends (initial jobs n) events p) (h : events = earlier ++ .check raised :: later) :
    (raised = true ↔ .raise ∈ earlier) ∧ (SawCancelled earlier → raised = true) ∧ Quiet p ∧
      (∀ event ∈ later, event = .raise ∨ ∃ answer, event = .answer answer) ∧
      (p.stage = stageAfter raised ∨ raised = false ∧ p.stage = .answered (verdict p.report)) := by
  obtain ⟨q, hearlier, hrest⟩ := run.split h
  obtain ⟨r, hcheck, hlater⟩ := hrest.of_cons
  obtain ⟨hraised, hquiet, hstage⟩ := hcheck.of_check
  have hground := hearlier.grounded
  have hiff : raised = true ↔ .raise ∈ earlier := by rw [← hraised, hground.raised_iff]
  have hnot : r.stage ≠ .waiting := by
    rw [hstage, stageAfter]
    split_ifs <;> exact Stage.noConfusion
  obtain ⟨hquiet', hreport, -, hevents, hprogress⟩ := hlater.of_quiet hquiet hnot
  refine ⟨hiff, fun hsaw => hiff.mpr (hground.cancelled hsaw), hquiet', hevents, ?_⟩
  rcases hprogress with hsame | ⟨hcleared, hanswered⟩
  · exact .inl (hsame.trans hstage)
  · refine .inr ⟨?_, by rw [hanswered, hreport]⟩
    cases raised with
    | false => rfl
    | true =>
      rw [hstage] at hcleared
      cases hcleared

lemma Step.stage_eq (step : Step ends p event q) :
    q.stage = p.stage ∨ (∃ raised, event = .check raised) ∨ p.stage ≠ .waiting := by
  cases step with
  | checkRaised => exact .inr (.inl ⟨true, rfl⟩)
  | checkClear => exact .inr (.inl ⟨false, rfl⟩)
  | answer stage => exact .inr (.inr (by rw [stage]; exact Stage.noConfusion))
  | _ => exact .inl rfl

lemma Run.exists_check (run : Run ends (initial jobs n) events p) (hn : n ≠ 0)
    (hstage : p.stage ≠ .waiting) :
    ∃ earlier raised later, events = earlier ++ .check raised :: later := by
  induction run with
  | nil => exact absurd (if_neg hn) hstage
  | @snoc events q _ event _ step ih =>
    by_cases hbefore : q.stage = .waiting
    · rcases step.stage_eq with hsame | ⟨raised, rfl⟩ | hnot
      · exact absurd (hsame.trans hbefore) hstage
      · exact ⟨events, raised, [], rfl⟩
      · exact absurd hbefore hnot
    · obtain ⟨earlier, raised, later, rfl⟩ := ih hbefore
      exact ⟨earlier, raised, later ++ [event], by rw [List.append_assoc, List.cons_append]⟩

/-- An answer says that the build is cancelled, and then the flag was raised in time, or it is the
verdict on the results, and then no worker saw the flag up. -/
lemma Run.answer_cases {answer : Except Error Nat} (run : Run ends (initial jobs n) events p)
    (h : p.stage = .answered answer) :
    Quiet p ∧ (RaisedBeforeCheck events ∧ answer = .error .cancelled ∨
      ¬SawCancelled events ∧ answer = verdict p.report) := by
  by_cases hn : n = 0
  · subst hn
    have hquiet : Quiet (initial jobs 0) := by
      refine ⟨fun worker hworker => ?_, rfl⟩
      rw [initial, Nat.min_zero, List.replicate_zero] at hworker
      exact absurd hworker List.not_mem_nil
    obtain ⟨hquiet', hreport, -, hevents, hprogress⟩ := run.of_quiet hquiet Stage.noConfusion
    refine ⟨hquiet', .inr ⟨?_, ?_⟩⟩
    · rintro ⟨index, item, hmem⟩
      rcases hevents _ hmem with h | ⟨_, h⟩ <;> cases h
    · rcases hprogress with hsame | ⟨hcleared, -⟩
      · rw [hreport]
        exact Stage.answered.inj (h.symm.trans hsame)
      · cases hcleared
  · have hstage : p.stage ≠ .waiting := by rw [h]; exact Stage.noConfusion
    obtain ⟨earlier, raised, later, hevents⟩ := run.exists_check hn hstage
    obtain ⟨hiff, hcancelled, hquiet, hlater, hprogress⟩ := run.of_check hevents
    refine ⟨hquiet, ?_⟩
    cases raised with
    | true =>
      refine .inl ⟨⟨earlier, true, later, hevents, hiff.mp rfl⟩, ?_⟩
      rcases hprogress with hsame | ⟨hfalse, -⟩
      · exact Stage.answered.inj (h.symm.trans hsame)
      · cases hfalse
    | false =>
      refine .inr ⟨?_, ?_⟩
      · rintro ⟨index, item, hmem⟩
        rw [hevents, List.mem_append, List.mem_cons] at hmem
        rcases hmem with hmem | hmem | hmem
        · cases hcancelled ⟨index, item, hmem⟩
        · cases hmem
        · rcases hlater _ hmem with h | ⟨_, h⟩ <;> cases h
      · rcases hprogress with hsame | ⟨-, hanswered⟩
        · cases h.symm.trans hsame
        · exact Stage.answered.inj (h.symm.trans hanswered)

/-! ## The results -/

/-- The error of a result. -/
def errorOf : Result → Option Error
  | .ok _ => none
  | .error e => some e

lemma completed_foldl_record (results : List Result) (report : PoolReport) :
    (results.foldl record report).completed = report.completed + results.count (.ok ()) := by
  induction results generalizing report with
  | nil => rfl
  | cons result rest ih =>
    rw [List.foldl_cons, ih]
    cases result with
    | ok =>
      rw [List.count_cons_self]
      dsimp only [record]
      omega
    | error e =>
      rw [List.count_cons_of_ne (fun h => by cases h)]
      rfl

lemma error_foldl_record (results : List Result) (report : PoolReport) :
    (results.foldl record report).error = report.error.or (results.findSome? errorOf) := by
  induction results generalizing report with
  | nil => rw [List.foldl_nil, List.findSome?_nil, Option.or_none]
  | cons result rest ih =>
    rw [List.foldl_cons, ih]
    cases result with
    | ok => rfl
    | error e =>
      dsimp only [record]
      rw [Option.or_assoc]
      rfl

lemma Step.report_eq (step : Step ends p event q) :
    q.report = event.collected.foldl record p.report := by
  cases step <;> rfl

lemma Run.report_eq (run : Run ends p events q) :
    q.report = (events.flatMap Event.collected).foldl record p.report := by
  induction run with
  | nil => rfl
  | snoc _ step ih =>
    rw [step.report_eq, ih, List.flatMap_append, List.foldl_append, List.flatMap_singleton]

lemma mem_announced_iff {result : Result} :
    result ∈ events.flatMap Event.announced ↔
      (∃ index item, .worker index (.finish item result) ∈ events) ∨
        result = .error .cancelled ∧ SawCancelled events := by
  rw [List.mem_flatMap]
  constructor
  · rintro ⟨event, hmem, hresult⟩
    unfold Event.announced at hresult
    split at hresult
    · rw [List.mem_singleton.mp hresult]
      exact .inl ⟨_, _, hmem⟩
    · exact .inr ⟨List.mem_singleton.mp hresult, _, _, hmem⟩
    · exact absurd hresult List.not_mem_nil
  · rintro (⟨index, item, hmem⟩ | ⟨rfl, index, item, hmem⟩)
    · exact ⟨_, hmem, List.mem_cons_self⟩
    · exact ⟨_, hmem, List.mem_cons_self⟩

lemma Quiet.flatMap_eq_nil {β : Type} (h : Quiet p) {stock : Worker → List β}
    (hgone : stock .gone = []) : p.workers.flatMap stock = [] := by
  refine List.flatMap_eq_nil_iff.mpr fun worker hworker => ?_
  rw [h.gone worker hworker, hgone]

lemma Run.perm_collected (run : Run ends (initial jobs n) events p) (h : Quiet p) :
    (events.flatMap Event.announced).Perm (events.flatMap Event.collected) := by
  refine List.perm_iff_count.mpr fun result => ?_
  have hpending : p.pending = [] := by
    rw [State.pending, h.channel, h.flatMap_eq_nil rfl, List.nil_append]
  rw [run.count_announced result, hpending, List.count_nil, Nat.add_zero]

/-- A collected error is the error of a job, unless a worker saw the flag up. -/
lemma Run.error_mem_collected_iff (run : Run ends (initial jobs n) events p) (h : Quiet p)
    (hsaw : ¬SawCancelled events) (error : Error) :
    .error error ∈ events.flatMap Event.collected ↔ JobFailed events error := by
  rw [← (run.perm_collected h).mem_iff, mem_announced_iff]
  exact or_iff_left fun hcancelled => hsaw hcancelled.2

lemma Run.report_error_eq (run : Run ends (initial jobs n) events p) :
    p.report.error = (events.flatMap Event.collected).findSome? errorOf := by
  rw [run.report_eq, error_foldl_record]
  rfl

lemma Run.verdict_eq_error (run : Run ends (initial jobs n) events p) (h : Quiet p)
    (hsaw : ¬SawCancelled events) (hfailed : ∃ error, JobFailed events error) :
    ∃ error, JobFailed events error ∧ verdict p.report = .error error := by
  cases herror : p.report.error with
  | none =>
    rw [run.report_error_eq, List.findSome?_eq_none_iff] at herror
    obtain ⟨error, hjob⟩ := hfailed
    cases herror _ ((run.error_mem_collected_iff h hsaw error).mpr hjob)
  | some error =>
    refine ⟨error, ?_, by rw [verdict, herror]⟩
    rw [run.report_error_eq] at herror
    obtain ⟨result, hmem, hresult⟩ := List.exists_of_findSome?_eq_some herror
    cases result with
    | ok => cases hresult
    | error e =>
      obtain rfl : e = error := Option.some.inj hresult
      exact (run.error_mem_collected_iff h hsaw e).mp hmem

/-! ## Runs without a failure -/

lemma Step.length_workers (step : Step ends p event q) :
    q.workers.length = p.workers.length := by
  cases step with
  | worker found move => exact List.length_set
  | _ => rfl

lemma Run.length_workers (run : Run ends p events q) : q.workers.length = p.workers.length := by
  induction run with
  | nil => rfl
  | snoc _ step ih => rw [step.length_workers, ih]

lemma exists_finish_of_mem {i : Nat} (h : i ∈ events.flatMap Event.finished) :
    ∃ index outcome, .worker index (.finish i outcome) ∈ events := by
  obtain ⟨event, hmem, hi⟩ := List.mem_flatMap.mp h
  unfold Event.finished at hi
  split at hi
  · rw [List.mem_singleton.mp hi]
    exact ⟨_, _, hmem⟩
  · exact absurd hi List.not_mem_nil

/-- Results come up where jobs end, unless a worker sees the flag up. -/
lemma length_announced (hsaw : ¬SawCancelled events) :
    (events.flatMap Event.announced).length = (events.flatMap Event.finished).length := by
  rw [List.length_flatMap, List.length_flatMap]
  congr 1
  refine List.map_congr_left fun event hevent => ?_
  cases event with
  | worker index act =>
    cases act with
    | seeCancelled item => exact absurd ⟨_, _, hevent⟩ hsaw
    | _ => rfl
  | _ => rfl

section Undisturbed

variable (run : Run ends (initial jobs n) events p) (h : Quiet p) (hsaw : ¬SawCancelled events)
  (hfailed : ¬∃ error, JobFailed events error)

include run h hsaw hfailed

/-- Where no flag was seen, the workers left an empty queue. -/
lemma Run.queue_eq_nil : p.queue = [] := by
  by_cases hn : n = 0
  · have hqueue : List.range n = events.flatMap Event.taken ++ p.queue := run.queue_eq
    rw [hn] at hqueue
    exact (List.append_eq_nil_iff.mp hqueue.symm).2
  · have hlength : p.workers.length = min (max jobs 1) n := by
      rw [run.length_workers, initial, List.length_replicate]
    obtain ⟨worker, hworker⟩ : ∃ worker, worker ∈ p.workers :=
      List.exists_mem_of_length_pos (by omega)
    have hjustified := run.grounded.workers worker hworker
    rw [h.gone worker hworker] at hjustified
    rcases hjustified with hqueue | hcancelled | hseen
    · exact hqueue
    · exact absurd hcancelled hsaw
    · exact absurd (run.grounded.seenFailed hseen) hfailed

omit h in
lemma Run.dropped_eq_nil : events.flatMap Event.dropped = [] := by
  refine List.flatMap_eq_nil_iff.mpr fun event hevent => ?_
  unfold Event.dropped
  split
  · exact absurd ⟨_, _, hevent⟩ hsaw
  · exact absurd (run.grounded.seenFailed ⟨_, _, hevent⟩) hfailed
  · rfl

/-- Where no flag was seen, the job of every item was started. -/
lemma Run.perm_started : (events.flatMap Event.started).Perm (List.range n) := by
  refine List.perm_iff_count.mpr fun i => ?_
  have hqueue : List.range n = events.flatMap Event.taken ++ p.queue := run.queue_eq
  rw [hqueue, run.queue_eq_nil h hsaw hfailed, List.append_nil, run.count_taken i,
    run.dropped_eq_nil hsaw hfailed, h.flatMap_eq_nil rfl, List.count_nil, Nat.add_zero]

/-- Where no flag was seen, the job of every item has ended. -/
lemma Run.perm_finished : (events.flatMap Event.finished).Perm (List.range n) := by
  refine List.Perm.trans (List.perm_iff_count.mpr fun i => ?_) (run.perm_started h hsaw hfailed)
  rw [run.count_started i, h.flatMap_eq_nil rfl, List.count_nil, Nat.add_zero]

/-- Where no flag was seen, all jobs count as completed. -/
lemma Run.verdict_eq_ok : verdict p.report = .ok n := by
  have hcollected : ∀ result ∈ events.flatMap Event.collected, result = .ok () := by
    intro result hmem
    cases result with
    | ok => rfl
    | error e => exact absurd ⟨e, (run.error_mem_collected_iff h hsaw e).mp hmem⟩ hfailed
  have herror : p.report.error = none := by
    rw [run.report_error_eq, List.findSome?_eq_none_iff]
    intro result hmem
    rw [hcollected result hmem]
    rfl
  have hcount : (events.flatMap Event.collected).count (.ok ()) = n := by
    calc (events.flatMap Event.collected).count (.ok ())
        = (events.flatMap Event.collected).length :=
          List.count_eq_length.mpr fun result hmem => (hcollected result hmem).symm
      _ = (events.flatMap Event.announced).length := (run.perm_collected h).length_eq.symm
      _ = (events.flatMap Event.finished).length := length_announced hsaw
      _ = (List.range n).length := (run.perm_finished h hsaw hfailed).length_eq
      _ = n := List.length_range
  have hcompleted : p.report.completed = n := by
    rw [run.report_eq, completed_foldl_record, hcount]
    exact Nat.zero_add n
  rw [verdict, herror, hcompleted]

end Undisturbed

/-! ## What the answer says -/

/-- What an answer says about the run that gave it. -/
structure Faithful (n : Nat) (events : List Event) (answer : Except Error Nat) : Prop where
  /-- A number is the number of items: every job was run once and succeeded, and the flag was not
  up when it was looked at for the last time. -/
  ok : ∀ k, answer = .ok k → k = n ∧ .check true ∉ events ∧ ∀ i < n,
    (events.flatMap Event.started).count i = 1 ∧
      (∃ index, .worker index (.finish i (.ok ())) ∈ events) ∧
      ∀ index error, .worker index (.finish i (.error error)) ∉ events
  /-- Cancellation wins over everything else. -/
  cancelled : RaisedBeforeCheck events → answer = .error .cancelled
  /-- Otherwise the error of a job is reported, if one has failed. -/
  failed : ¬RaisedBeforeCheck events → (∃ error, JobFailed events error) →
    ∃ error, JobFailed events error ∧ answer = .error error
  /-- Otherwise all is well. -/
  complete : ¬RaisedBeforeCheck events → (¬∃ error, JobFailed events error) → answer = .ok n

lemma Run.eq_cancelled_of_raised {answer : Except Error Nat}
    (run : Run ends (initial jobs n) events p) (h : p.stage = .answered answer)
    (hraised : RaisedBeforeCheck events) : answer = .error .cancelled := by
  obtain ⟨earlier, raised, later, hevents, hmem⟩ := hraised
  obtain ⟨hiff, -, -, -, hprogress⟩ := run.of_check hevents
  obtain rfl := hiff.mpr hmem
  rcases hprogress with hsame | ⟨hfalse, -⟩
  · exact Stage.answered.inj (h.symm.trans hsame)
  · cases hfalse

lemma Run.raised_of_check_true (run : Run ends (initial jobs n) events p)
    (h : .check true ∈ events) : RaisedBeforeCheck events := by
  obtain ⟨earlier, later, hevents⟩ := List.append_of_mem h
  exact ⟨earlier, true, later, hevents, (run.of_check hevents).1.mp rfl⟩

lemma Run.faithful {answer : Except Error Nat} (run : Run ends (initial jobs n) events p)
    (h : p.stage = .answered answer) : Faithful n events answer := by
  obtain ⟨hquiet, hcases⟩ := run.answer_cases h
  have hverdict : ¬RaisedBeforeCheck events →
      ¬SawCancelled events ∧ answer = verdict p.report := fun hraised =>
    hcases.resolve_left fun hcancelled => hraised hcancelled.1
  have hfailed : ¬RaisedBeforeCheck events → (∃ error, JobFailed events error) →
      ∃ error, JobFailed events error ∧ answer = .error error := by
    intro hraised hjob
    obtain ⟨hsaw, rfl⟩ := hverdict hraised
    exact run.verdict_eq_error hquiet hsaw hjob
  have hcancelled := run.eq_cancelled_of_raised h
  refine ⟨?_, hcancelled, hfailed, ?_⟩
  · rintro k rfl
    -- a number is neither of the two kinds of errors, so the flag was not raised and no job failed
    have hraised : ¬RaisedBeforeCheck events := fun hraised => by cases hcancelled hraised
    have hjob : ¬∃ error, JobFailed events error := fun hjob => by
      obtain ⟨error, -, herror⟩ := hfailed hraised hjob
      cases herror
    obtain ⟨hsaw, hanswer⟩ := hverdict hraised
    rw [run.verdict_eq_ok hquiet hsaw hjob] at hanswer
    refine ⟨Except.ok.inj hanswer, fun hcheck => hraised (run.raised_of_check_true hcheck), ?_⟩
    intro i hi
    have hitem : i ∈ List.range n := List.mem_range.mpr hi
    refine ⟨?_, ?_, fun index error hmem => hjob ⟨error, index, i, hmem⟩⟩
    · rw [(run.perm_started hquiet hsaw hjob).count_eq i]
      exact List.count_eq_one_of_mem List.nodup_range hitem
    · obtain ⟨index, outcome, hmem⟩ :=
        exists_finish_of_mem ((run.perm_finished hquiet hsaw hjob).mem_iff.mpr hitem)
      cases outcome with
      | ok => exact ⟨index, hmem⟩
      | error e => exact absurd ⟨e, index, i, hmem⟩ hjob
  · intro hraised hjob
    obtain ⟨hsaw, rfl⟩ := hverdict hraised
    exact run.verdict_eq_ok hquiet hsaw hjob

end Cartridge.Build.Pool
