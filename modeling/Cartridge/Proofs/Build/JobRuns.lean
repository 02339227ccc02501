import Cartridge.Proofs.Build.Answers

/-!
# Running jobs in turn

Running jobs in turn is what a pool with one worker does: the run of the pool follows `drainJobs`
item by item, with a raise where a job has cancelled the build, and gives the same answer
(`reaches_runJobs`).  So what holds of all runs of pools, for every number of workers and every
interleaving, holds of it; this is the main result, `pool_faithful`.
-/

namespace Cartridge.Build.Pool

variable {ends : Nat → Result → Prop} {α : Type}

/-- What the job of the item at a place may come to. -/
def MayEnd (job : α → Action Unit) (items : List α) (i : Nat) (outcome : Result) : Prop :=
  ∃ item world, items[i]? = some item ∧ ((job item).run world).1 = outcome

/-- Some run leads from one state to another. -/
def Reaches (ends : Nat → Result → Prop) (p q : State) : Prop :=
  ∃ events, Run ends p events q

lemma Reaches.refl (p : State) : Reaches ends p p := ⟨[], .nil⟩

lemma Reaches.trans {p q r : State} (first : Reaches ends p q) (second : Reaches ends q r) :
    Reaches ends p r := by
  obtain ⟨events, hfirst⟩ := first
  obtain ⟨more, hsecond⟩ := second
  exact ⟨events ++ more, hfirst.trans hsecond⟩

lemma Step.reaches {p q : State} {event : Event} (step : Step ends p event q) :
    Reaches ends p q :=
  ⟨[event], .single step⟩

/-! ## A pool with one worker -/

/-- A pool with one worker, before anything is collected. -/
def single (worker : Worker) (shared : Shared) : State :=
  { shared with workers := [worker] }

lemma Move.reaches {s shared : Shared} {before after : Worker} {act : Act}
    (move : Move ends s before act shared after) :
    Reaches ends (single before s) (single after shared) := by
  have hstep : Step ends (single before s) (.worker 0 act) (single after shared) :=
    .worker rfl move
  exact hstep.reaches

section OneWorker

variable {queue : List Nat} {channel : List Result}

/-- The worker takes an item and runs its job. -/
lemma reaches_job {i : Nat} {outcome : Result} (hends : ends i outcome) :
    Reaches ends (single .idle ⟨i :: queue, false, channel, false⟩)
      (single .idle ⟨queue, (errorOf outcome).isSome, channel ++ [outcome], false⟩) := by
  have htake : Reaches ends (single .idle ⟨i :: queue, false, channel, false⟩)
      (single (.holding i) ⟨queue, false, channel, false⟩) := (Move.take rfl).reaches
  have hstart : Reaches ends (single (.holding i) ⟨queue, false, channel, false⟩)
      (single (.running i) ⟨queue, false, channel, false⟩) :=
    (Move.seeUncancelled rfl).reaches.trans (Move.start rfl).reaches
  refine (htake.trans hstart).trans ?_
  cases outcome with
  | ok => exact (Move.succeed hends).reaches.trans Move.send.reaches
  | error e =>
    exact ((Move.fail hends).reaches.trans Move.markFailed.reaches).trans Move.send.reaches

/-- The flag may be raised at any time. -/
lemma reaches_raise (s : Shared) (h : s.raised = false) (worker : Worker) (raised : Bool) :
    Reaches ends (single worker s) (single worker { s with raised := raised }) := by
  cases raised with
  | false =>
    rw [← h]
    exact .refl _
  | true => exact Step.raise.reaches

/-- After a failure the worker goes, and adds at most that the build is cancelled. -/
lemma reaches_gone (ends : Nat → Result → Prop) (queue : List Nat) (channel : List Result)
    (raised : Bool) :
    ∃ (left : List Nat) (errors : List Error),
      Reaches ends (single .idle ⟨queue, true, channel, raised⟩)
        (single .gone ⟨left, true, channel ++ errors.map .error, raised⟩) := by
  cases queue with
  | nil =>
    refine ⟨[], [], ?_⟩
    rw [List.map_nil, List.append_nil]
    exact (Move.leave rfl).reaches
  | cons i left =>
    have htake : Reaches ends (single .idle ⟨i :: left, true, channel, raised⟩)
        (single (.holding i) ⟨left, true, channel, raised⟩) := (Move.take rfl).reaches
    cases raised with
    | true =>
      refine ⟨left, [.cancelled], htake.trans ?_⟩
      exact (Move.seeCancelled rfl).reaches.trans Move.sendCancelled.reaches
    | false =>
      refine ⟨left, [], htake.trans ?_⟩
      rw [List.map_nil, List.append_nil]
      exact (Move.seeUncancelled rfl).reaches.trans (Move.seeFailed rfl).reaches

end OneWorker

/-! ## Jobs in turn -/

section InTurn

variable {job : α → Action Unit} {item : α} {remaining : List α} {world after : World}

lemma drainJobs_cancelled (h : world.context.isCancelled = true) :
    drainJobs job (item :: remaining) world = ({ error := some .cancelled }, world) := by
  rw [drainJobs, if_pos h]

lemma drainJobs_error {error : Error} (h : world.context.isCancelled = false)
    (hrun : (job item).run world = (.error error, after)) :
    drainJobs job (item :: remaining) world = ({ error := some error }, after) := by
  rw [drainJobs, if_neg (by rw [h]; exact Bool.false_ne_true), hrun]

lemma drainJobs_ok (h : world.context.isCancelled = false)
    (hrun : (job item).run world = (.ok (), after)) :
    drainJobs job (item :: remaining) world =
      ({ (drainJobs job remaining after).1 with
          completed := (drainJobs job remaining after).1.completed + 1 },
        (drainJobs job remaining after).2) := by
  rw [drainJobs, if_neg (by rw [h]; exact Bool.false_ne_true), hrun]

end InTurn

/-- The results of jobs that were run in turn: the completed ones, then errors, of which the first
is the one that is reported. -/
def ResultsOf (report : PoolReport) (results : List Result) : Prop :=
  ∃ errors : List Error,
    results = List.replicate report.completed (.ok ()) ++ errors.map .error ∧
      errors.head? = report.error

/-- The pool with one worker follows the jobs in turn. -/
lemma reaches_drainJobs (job : α → Action Unit) (items : List α) {remaining : List α} {k : Nat}
    (hitems : items.drop k = remaining) (channel : List Result) (world : World) :
    ∃ left failed results,
      Reaches (MayEnd job items)
        (single .idle
          ⟨List.range' k remaining.length, false, channel, world.context.isCancelled⟩)
        (single .gone
          ⟨left, failed, channel ++ results,
            (drainJobs job remaining world).2.context.isCancelled⟩) ∧
      ResultsOf (drainJobs job remaining world).1 results := by
  induction remaining generalizing k channel world with
  | nil =>
    refine ⟨[], false, [], ?_, [], rfl, rfl⟩
    rw [List.append_nil]
    exact (Move.leave rfl).reaches
  | cons item remaining ih =>
    cases hcancelled : world.context.isCancelled with
    | true =>
      rw [drainJobs_cancelled hcancelled]
      refine ⟨List.range' (k + 1) remaining.length, false, [.error .cancelled], ?_,
        [.cancelled], rfl, rfl⟩
      rw [hcancelled]
      exact ((Move.take rfl).reaches.trans (Move.seeCancelled rfl).reaches).trans
        Move.sendCancelled.reaches
    | false =>
      have hitem : items[k]? = some item := by
        rw [← List.head?_drop, hitems, List.head?_cons]
      have hdrop : items.drop (k + 1) = remaining := by
        rw [← List.drop_drop, hitems, List.drop_one, List.tail_cons]
      cases hrun : (job item).run world with
      | mk outcome after =>
        have hends : MayEnd job items k outcome := ⟨item, world, hitem, by rw [hrun]⟩
        -- the flag is up after the job if it was raised meanwhile
        have hjob : Reaches (MayEnd job items)
            (single .idle ⟨k :: List.range' (k + 1) remaining.length, false, channel, false⟩)
            (single .idle ⟨List.range' (k + 1) remaining.length, (errorOf outcome).isSome,
              channel ++ [outcome], after.context.isCancelled⟩) :=
          (reaches_job hends).trans (reaches_raise _ rfl .idle _)
        cases outcome with
        | ok =>
          obtain ⟨left, failed, results, hmore, errors, hresults, herrors⟩ :=
            ih hdrop (channel ++ [.ok ()]) after
          rw [drainJobs_ok hcancelled hrun]
          refine ⟨left, failed, .ok () :: results, ?_, errors, ?_, herrors⟩
          · rw [List.append_assoc, List.singleton_append] at hmore
            exact hjob.trans hmore
          · rw [hresults]
            rfl
        | error e =>
          obtain ⟨left, errors, hgone⟩ := reaches_gone (MayEnd job items)
            (List.range' (k + 1) remaining.length) (channel ++ [.error e])
            after.context.isCancelled
          rw [drainJobs_error hcancelled hrun]
          refine ⟨left, true, .error e :: errors.map .error, ?_, e :: errors, rfl, rfl⟩
          rw [List.append_assoc, List.singleton_append] at hgone
          exact hjob.trans hgone

/-! ## The answer -/

/-- When all workers are gone, the results are collected. -/
lemma reaches_collected {p : State} (hstage : p.stage = .waiting)
    (hgone : ∀ worker ∈ p.workers, worker = .gone) :
    Reaches ends p { p with channel := [], report := p.channel.foldl record p.report } := by
  induction hchannel : p.channel generalizing p with
  | nil =>
    rw [List.foldl_nil, ← hchannel]
    exact .refl p
  | cons result rest ih =>
    have hcollect : Step ends p (.collect result)
        { p with channel := rest, report := record p.report result } :=
      .collect hstage hgone hchannel
    exact hcollect.reaches.trans (ih hstage hgone rfl)

/-- When everything is collected, the answer is given. -/
lemma reaches_verdict {p : State} (hstage : p.stage = .waiting)
    (hgone : ∀ worker ∈ p.workers, worker = .gone) (hchannel : p.channel = []) :
    ∃ q, Reaches ends p q ∧
      q.stage = .answered (if p.raised then .error .cancelled else verdict p.report) := by
  cases hraised : p.raised with
  | true => exact ⟨_, (Step.checkRaised hstage hgone hchannel hraised).reaches, rfl⟩
  | false =>
    have hcheck : Reaches ends p { p with stage := .cleared } :=
      (Step.checkClear hstage hgone hchannel hraised).reaches
    exact ⟨_, hcheck.trans (Step.answer rfl).reaches, rfl⟩

lemma reaches_answer (ends : Nat → Result → Prop) (p : State) (hstage : p.stage = .waiting)
    (hgone : ∀ worker ∈ p.workers, worker = .gone) :
    ∃ q, Reaches ends p q ∧ q.stage = .answered
      (if p.raised then .error .cancelled else verdict (p.channel.foldl record p.report)) := by
  have hcollected : Reaches ends p
      { p with channel := [], report := p.channel.foldl record p.report } :=
    reaches_collected hstage hgone
  obtain ⟨q, hq, hanswer⟩ : ∃ q, Reaches ends
      { p with channel := [], report := p.channel.foldl record p.report } q ∧ q.stage = .answered
        (if p.raised then .error .cancelled else verdict (p.channel.foldl record p.report)) :=
    reaches_verdict hstage hgone rfl
  exact ⟨q, hcollected.trans hq, hanswer⟩

lemma report_ext {a b : PoolReport} (hcompleted : a.completed = b.completed)
    (herror : a.error = b.error) : a = b := by
  cases a
  cases b
  cases hcompleted
  cases herror
  rfl

/-- What is collected from the results of jobs in turn is the report on them. -/
lemma ResultsOf.foldl_record {report : PoolReport} {results : List Result}
    (h : ResultsOf report results) : results.foldl record {} = report := by
  obtain ⟨errors, rfl, herrors⟩ := h
  have hnone : (.ok () : Result) ∉ errors.map .error := by
    intro hmem
    obtain ⟨e, -, he⟩ := List.mem_map.mp hmem
    cases he
  have hfirst : (List.replicate report.completed (.ok ())).findSome? errorOf = none := by
    refine List.findSome?_eq_none_iff.mpr fun result hmem => ?_
    rw [List.eq_of_mem_replicate hmem, errorOf]
  have hrest : (errors.map .error).findSome? errorOf = errors.head? := by
    cases errors <;> rfl
  refine report_ext ?_ ?_
  · rw [completed_foldl_record, List.count_append, List.count_replicate_self,
      List.count_eq_zero_of_not_mem hnone]
    exact Nat.zero_add _
  · rw [error_foldl_record, List.findSome?_append, hfirst, hrest, herrors]
    rfl

lemma initial_one (n : Nat) :
    initial 1 (n + 1) = single .idle ⟨List.range' 0 (n + 1), false, [], false⟩ := by
  have hworkers : min (max 1 1) (n + 1) = 1 := by omega
  rw [initial, hworkers, if_neg (Nat.succ_ne_zero n), List.range_eq_range']
  rfl

/-- The answer of jobs that are run in turn is one that a pool with one worker gives. -/
lemma reaches_runJobs (job : α → Action Unit) (items : List α) (world : World) :
    ∃ q, Reaches (MayEnd job items) (initial 1 items.length) q ∧
      q.stage = .answered ((runJobs job items).run world).1 := by
  cases items with
  | nil => exact ⟨_, .refl _, rfl⟩
  | cons item rest =>
    obtain ⟨left, failed, results, hdrain, hresults⟩ :=
      reaches_drainJobs job (item :: rest) List.drop_zero [] world
    have hstart : Reaches (MayEnd job (item :: rest)) (initial 1 (item :: rest).length)
        (single .idle ⟨List.range' 0 (item :: rest).length, false, [],
          world.context.isCancelled⟩) := by
      rw [List.length_cons, initial_one]
      exact reaches_raise _ rfl .idle _
    have hgone : ∀ worker ∈ [Worker.gone], worker = .gone := fun worker => List.mem_singleton.mp
    obtain ⟨q, hq, hanswer⟩ := reaches_answer (MayEnd job (item :: rest))
      (single .gone ⟨left, failed, [] ++ results,
        (drainJobs job (item :: rest) world).2.context.isCancelled⟩) rfl hgone
    refine ⟨q, (hstart.trans hdrain).trans hq, hanswer.trans ?_⟩
    dsimp only [single]
    rw [List.nil_append, hresults.foldl_record]
    rfl

/-- Running the jobs of a list of items loses, repeats and misreports nothing, whatever the jobs
come to.  With any number of workers, along every run: no job is run twice, no worker starts a job
after it has seen one of the flags, the run is not longer than the items and workers allow, it can
always be continued until there is an answer, and the answer is faithful.  Running the jobs in turn
gives the answer of a run with one worker. -/
theorem pool_faithful (job : α → Action Unit) (items : List α) :
    (∀ {jobs : Nat} {events : List Event} {p : State},
      Run (MayEnd job items) (initial jobs items.length) events p →
        (∀ i, (events.flatMap Event.started).count i ≤ 1) ∧
        (events.Pairwise fun earlier later =>
          ∀ index item, earlier.SeesFlag index → later ≠ .worker index (.start item)) ∧
        events.countP (!·.isRaise) ≤ 8 * items.length + 2 ∧
        (∃ more q answer, Run (MayEnd job items) p more q ∧ q.stage = .answered answer) ∧
        ∀ answer, p.stage = .answered answer → Faithful items.length events answer) ∧
    ∀ world, ∃ events p, Run (MayEnd job items) (initial 1 items.length) events p ∧
      p.stage = .answered ((runJobs job items).run world).1 := by
  refine ⟨?_, fun world => ?_⟩
  · intro jobs events p run
    have hends : ∀ i < items.length, ∃ outcome, MayEnd job items i outcome := fun i hi =>
      ⟨_, items[i], { tree := {} }, List.getElem?_eq_getElem hi, rfl⟩
    refine ⟨run.count_started_le_one, run.pairwise_not_start, ?_, run.exists_answer hends,
      fun answer => run.faithful⟩
    have hbound := Nat.le_trans run.remaining_le (remaining_initial_le jobs items.length)
    omega
  · obtain ⟨q, ⟨events, hrun⟩, hanswer⟩ := reaches_runJobs job items world
    exact ⟨events, q, hrun, hanswer⟩

/-- A job that fails for some items. -/
def brittleJob (broken : Bool) : Action Unit :=
  if broken then throw (.cache "bad job") else pure ()

/-- A pool with two workers, before anything is collected. -/
def pair (first second : Worker) (shared : Shared) : State :=
  { shared with workers := [first, second] }

lemma Move.step_first {s shared : Shared} {before after : Worker} {act : Act} (other : Worker)
    (move : Move ends s before act shared after) :
    Step ends (pair before other s) (.worker 0 act) (pair after other shared) :=
  .worker rfl move

lemma Move.step_second {s shared : Shared} {before after : Worker} {act : Act} (other : Worker)
    (move : Move ends s before act shared after) :
    Step ends (pair other before s) (.worker 1 act) (pair other after shared) :=
  .worker rfl move

/-- Two workers take an item each.  The first job fails before the second worker looks at the flag
for failures, so the second job is not started. -/
theorem pool_faithful_two_workers :
    ∃ events p, Run (MayEnd brittleJob [true, false]) (initial 2 2) events p ∧
      p.stage = .answered (.error (.cache "bad job")) ∧
      events.flatMap Event.dropped = [1] ∧ Faithful 2 events (.error (.cache "bad job")) := by
  have hends : MayEnd brittleJob [true, false] 0 (.error (.cache "bad job")) :=
    ⟨true, { tree := {} }, rfl, rfl⟩
  have htaken : Run (MayEnd brittleJob [true, false]) (initial 2 2) _
      (pair (.holding 0) (.holding 1) ⟨[], false, [], false⟩) :=
    (Run.nil.snoc ((Move.take rfl).step_first .idle)).snoc ((Move.take rfl).step_second _)
  have hfailed := (((htaken.snoc ((Move.seeUncancelled rfl).step_first _)).snoc
    ((Move.start rfl).step_first _)).snoc ((Move.fail hends).step_first _)).snoc
    (Move.markFailed.step_first _)
  have hgone := (((hfailed.snoc ((Move.seeUncancelled rfl).step_second _)).snoc
    ((Move.seeFailed rfl).step_second _)).snoc (Move.send.step_first _)).snoc
    ((Move.leave rfl).step_first _)
  have hall : ∀ worker ∈ [Worker.gone, .gone], worker = .gone :=
    List.forall_mem_cons.mpr ⟨rfl, List.forall_mem_singleton.mpr rfl⟩
  have hanswer := ((hgone.snoc (.collect rfl hall rfl)).snoc (.checkClear rfl hall rfl rfl)).snoc
    (.answer rfl)
  obtain ⟨-, -, -, -, hfaithful⟩ := (pool_faithful brittleJob [true, false]).1 hanswer
  exact ⟨_, _, hanswer, rfl, rfl, hfaithful _ rfl⟩

end Cartridge.Build.Pool
