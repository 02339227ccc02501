import Mathlib.Logic.Relation
import Cartridge.Proofs.Script.Reachability

/-!
# Walks end, and a bound on their depth only cuts off what lies deeper

A walk is given by a number of levels that it may still go down.  What it stands for is a fold that
knows no levels: it goes through pending scripts event by event, and opens the body of a call as
long as its own depth is below a limit (`Folding.next`).  The body is bound anew at every call, so
it is no part of the event, and custom events may call each other in circles.  The fold comes to an
end all the same, and it has then folded the visits of the walk (`folds_walkFrom`): the levels that
are left go down with every call, and at one depth the fold goes by the nesting of branches.

Each visit knows its depth.  A walk with more levels meets the same events in the same order, with
further ones between them that are all deeper (`filter_walkFrom`).
-/

namespace Cartridge.Script

open Cartridge.Project (CustomEvent Scene)

/-! ## Folding event by event -/

/-- A fold on its way: the scripts that are still to go through, each with its depth and the next
one in front, and what came out so far. -/
structure Folding (σ : Type) where
  pending : List (Nat × List Event)
  result : σ

/-- The body that a fold opens behind an event: the one that the event calls, one deeper, as long
as the depth is below the limit. -/
def openedBody (library : List CustomEvent) (limit depth : Nat) (event : Event) :
    List (Nat × List Event) :=
  if depth < limit then (bodyOf? library event).toList.map (depth + 1, ·) else []

/-- The next state of a fold, unless nothing is pending.  A disabled event is passed over.  Any
other is folded, and its branches and the body that it calls come before the rest of its script. -/
def Folding.next {σ : Type} (library : List CustomEvent) (limit : Nat) (folder : σ → Visit → σ) :
    Folding σ → Option (Folding σ)
  | ⟨[], _⟩ => none
  | ⟨(_, []) :: rest, result⟩ => some ⟨rest, result⟩
  | ⟨(depth, event :: events) :: rest, result⟩ =>
    if event.isDisabled then some ⟨(depth, events) :: rest, result⟩
    else
      some ⟨event.branches.map (depth, ·.2) ++ (openedBody library limit depth event ++
        (depth, events) :: rest), folder result ⟨event, depth⟩⟩

/-- A fold gets from one state to another in some number of steps. -/
def Folds {σ : Type} (library : List CustomEvent) (limit : Nat) (folder : σ → Visit → σ) :
    Folding σ → Folding σ → Prop :=
  Relation.ReflTransGen fun now later => now.next library limit folder = some later

section

variable {σ : Type} {library : List CustomEvent} {limit : Nat} {folder : σ → Visit → σ}

/-- The bodies that a fold opens at a depth are gone through with the visits that `inner` gives for
the events that call them. -/
def FoldsBodies (library : List CustomEvent) (limit : Nat) (folder : σ → Visit → σ)
    (inner : Event → List Visit) (depth : Nat) : Prop :=
  ∀ event rest result, Folds library limit folder
    ⟨openedBody library limit depth event ++ rest, result⟩
    ⟨rest, (inner event).foldl folder result⟩

mutual

variable {depth : Nat}

lemma folds_visitEvent {inner : Event → List Visit}
    (hinner : FoldsBodies library limit folder inner depth) : ∀ event events rest result,
    Folds library limit folder ⟨(depth, event :: events) :: rest, result⟩
      ⟨(depth, events) :: rest, (visitEvent inner depth event).foldl folder result⟩
  | ⟨id, command, args, branches⟩, events, rest, result => by
    rw [visitEvent]
    split_ifs with hdisabled
    · refine .single ?_
      rw [Folding.next, if_pos hdisabled]
      rfl
    · rw [List.foldl_cons, List.foldl_append]
      refine .head ?_ ((folds_visitBranches hinner branches _ _).trans (hinner _ _ _))
      rw [Folding.next, if_neg hdisabled]

/-- A pending script is gone through with the visits of its events. -/
lemma folds_visitEvents {inner : Event → List Visit}
    (hinner : FoldsBodies library limit folder inner depth) : ∀ events rest result,
    Folds library limit folder ⟨(depth, events) :: rest, result⟩
      ⟨rest, (visitEvents inner depth events).foldl folder result⟩
  | [], rest, result => .single rfl
  | event :: events, rest, result => by
    rw [visitEvents, List.foldl_append]
    exact (folds_visitEvent hinner event events rest result).trans
      (folds_visitEvents hinner events rest _)

lemma folds_visitBranches {inner : Event → List Visit}
    (hinner : FoldsBodies library limit folder inner depth) : ∀ branches rest result,
    Folds library limit folder
      ⟨branches.map (fun branch => (depth, branch.2)) ++ rest, result⟩
      ⟨rest, (visitBranches inner depth branches).foldl folder result⟩
  | [], rest, result => .refl
  | (_, body) :: branches, rest, result => by
    rw [visitBranches, List.foldl_append]
    exact (folds_visitEvents hinner body _ result).trans
      (folds_visitBranches hinner branches rest _)

end

/-- A fold goes through a pending script and has then folded the visits of the walk from there. -/
lemma folds_walkFrom {levels depth : Nat} (hlevels : limit - depth = levels) (events : List Event)
    (rest : List (Nat × List Event)) (result : σ) :
    Folds library limit folder ⟨(depth, events) :: rest, result⟩
      ⟨rest, (walkFrom library levels depth events).foldl folder result⟩ := by
  induction levels generalizing depth events rest result with
  | zero =>
    rw [walkFrom]
    refine folds_visitEvents (fun event rest result => ?_) events rest result
    rw [openedBody, if_neg (by omega)]
    exact .refl
  | succ levels ih =>
    rw [walkFrom]
    refine folds_visitEvents (fun event rest result => ?_) events rest result
    rw [openedBody, if_pos (by omega)]
    cases bodyOf? library event with
    | none => exact .refl
    | some body => exact ih (by omega) body rest result

end

/-! ## Cutting off what lies deeper -/

mutual

variable {depth : Nat}

lemma filter_visitEvent {inner : Event → List Visit} {keep : Visit → Bool}
    (hkeep : ∀ event, keep ⟨event, depth⟩ = true) : ∀ event,
    (visitEvent inner depth event).filter keep =
      visitEvent (fun event => (inner event).filter keep) depth event
  | ⟨id, command, args, branches⟩ => by
    rw [visitEvent, visitEvent]
    split_ifs
    · rfl
    · rw [List.filter_cons_of_pos (hkeep _), List.filter_append,
        filter_visitBranches hkeep branches]

/-- Where all visits at the depth of a script are kept, only those inside of bodies are cut. -/
lemma filter_visitEvents {inner : Event → List Visit} {keep : Visit → Bool}
    (hkeep : ∀ event, keep ⟨event, depth⟩ = true) : ∀ events,
    (visitEvents inner depth events).filter keep =
      visitEvents (fun event => (inner event).filter keep) depth events
  | [] => rfl
  | event :: rest => by
    rw [visitEvents, visitEvents, List.filter_append, filter_visitEvent hkeep event,
      filter_visitEvents hkeep rest]

lemma filter_visitBranches {inner : Event → List Visit} {keep : Visit → Bool}
    (hkeep : ∀ event, keep ⟨event, depth⟩ = true) : ∀ branches,
    (visitBranches inner depth branches).filter keep =
      visitBranches (fun event => (inner event).filter keep) depth branches
  | [] => rfl
  | (_, body) :: rest => by
    rw [visitBranches, visitBranches, List.filter_append, filter_visitEvents hkeep body,
      filter_visitBranches hkeep rest]

end

section

variable {library : List CustomEvent}

lemma le_depth_of_mem_walkFrom {levels depth : Nat} {events : List Event} {visit : Visit}
    (h : visit ∈ walkFrom library levels depth events) : depth ≤ visit.depth := by
  induction levels generalizing depth events with
  | zero =>
    obtain ⟨_, -, _, -, rfl | ⟨_, _, hlevels, -⟩⟩ := mem_walkFrom_iff.mp h
    · exact Nat.le_refl depth
    · cases hlevels
  | succ levels ih =>
    obtain ⟨_, -, _, -, rfl | ⟨_, _, hlevels, -, hbody⟩⟩ := mem_walkFrom_iff.mp h
    · exact Nat.le_refl depth
    · cases hlevels
      exact Nat.le_of_succ_le (ih hbody)

/-- With more levels a walk only meets further events between the others, all of them deeper. -/
lemma filter_walkFrom (levels more depth : Nat) (events : List Event) :
    (walkFrom library (levels + more) depth events).filter (·.depth ≤ depth + levels) =
      walkFrom library levels depth events := by
  induction levels generalizing depth events with
  | zero =>
    cases more with
    | zero =>
      rw [walkFrom, filter_visitEvents (by simp)]
      rfl
    | succ more =>
      rw [Nat.zero_add, walkFrom, walkFrom, filter_visitEvents (by simp)]
      congr 1
      funext event
      rw [List.filter_eq_nil_iff]
      intro visit hvisit
      cases hbody : bodyOf? library event with
      | none =>
        rw [hbody] at hvisit
        exact absurd hvisit List.not_mem_nil
      | some body =>
        rw [hbody] at hvisit
        have hdeeper := le_depth_of_mem_walkFrom hvisit
        rw [decide_eq_true_eq]
        omega
  | succ levels ih =>
    rw [Nat.add_right_comm, walkFrom, walkFrom, filter_visitEvents (by simp)]
    congr 1
    funext event
    cases bodyOf? library event with
    | none => rfl
    | some body =>
      have hbody := ih (depth + 1) body
      rw [Nat.add_assoc, Nat.add_comm 1] at hbody
      exact hbody

lemma walkFrom_eq_filter {start bound later : Nat} (hstart : start ≤ bound) (hle : bound ≤ later)
    (script : List Event) :
    walkFrom library (bound - start) start script =
      (walkFrom library (later - start) start script).filter (·.depth ≤ bound) := by
  obtain ⟨levels, rfl⟩ := Nat.exists_eq_add_of_le hstart
  obtain ⟨more, rfl⟩ := Nat.exists_eq_add_of_le hle
  rw [Nat.add_sub_cancel_left, Nat.add_assoc, Nat.add_sub_cancel_left, filter_walkFrom]

lemma walkScenes_eq_filter {bound later : Nat} (hle : bound ≤ later) (scenes : List Scene) :
    walkScenes library bound scenes =
      (walkScenes library later scenes).filter (·.2.depth ≤ bound) := by
  have hscript : ∀ script, walk library bound script =
      (walk library later script).filter (·.depth ≤ bound) := fun script =>
    walkFrom_eq_filter (Nat.zero_le bound) hle script
  have hscene : ∀ scene, walkScene library bound scene =
      (walkScene library later scene).filter (·.2.depth ≤ bound) := by
    intro scene
    simp only [walkScene, List.filter_flatMap, List.filter_map, hscript]
    rfl
  rw [walkScenes, walkScenes, List.filter_flatMap, funext hscene]

/-- A fold over a script comes to an end at every limit, from every depth, and has then folded the
visits of the walk.  A lower limit leaves exactly the visits that are not deeper than it, in the
same order, for one script as for all scripts of scenes with their owners. -/
theorem walk_stable_under_limit {start lower higher : Nat} (hstart : start ≤ lower)
    (hle : lower ≤ higher) (library : List CustomEvent) (script : List Event) :
    (∀ (σ : Type) (limit depth : Nat) (folder : σ → Visit → σ) (result : σ),
      Folds library limit folder ⟨[(depth, script)], result⟩
        ⟨[], (walkFrom library (limit - depth) depth script).foldl folder result⟩) ∧
    walkFrom library (lower - start) start script =
      (walkFrom library (higher - start) start script).filter (·.depth ≤ lower) ∧
    ∀ scenes, walkScenes library lower scenes =
      (walkScenes library higher scenes).filter (·.2.depth ≤ lower) := by
  refine ⟨?_, walkFrom_eq_filter hstart hle script, walkScenes_eq_filter hle⟩
  intro σ limit depth folder result
  exact folds_walkFrom rfl script [] result

/-- A call of a custom event without further arguments. -/
def bareCall (id : String) : Event where
  command := Command.callCustom
  args := [(calleeArgument, .string id)]

/-- Two custom events that call each other, one of them inside a branch. -/
def tickTock : List CustomEvent :=
  [{ id := "tick", script := [{ command := "EVENT_TICK" }, bareCall "tock"] },
    { id := "tock"
      script := [{ command := "EVENT_IF_TRUE", branches := [("true", [bareCall "tick"])] }] }]

/-- Custom events that call each other in a circle are followed down to the limit.  Of the
nine visits at the higher limit the five that are not deeper than the lower one remain. -/
theorem walk_stable_under_limit_tickTock :
    (walk tickTock 4 [bareCall "tick"]).map (·.depth) = [0, 1, 1, 2, 2, 3, 3, 4, 4] ∧
      walk tickTock 2 [bareCall "tick"] =
        (walk tickTock 4 [bareCall "tick"]).filter (·.depth ≤ 2) ∧
      Folds tickTock 4 (fun count _ => count + 1) ⟨[(0, [bareCall "tick"])], 0⟩ ⟨[], 9⟩ := by
  have hstable := walk_stable_under_limit (Nat.zero_le 2) (by decide : 2 ≤ 4) tickTock
    [bareCall "tick"]
  have hdepths : (walk tickTock 4 [bareCall "tick"]).map (·.depth) =
      [0, 1, 1, 2, 2, 3, 3, 4, 4] := by decide
  have hcount : (walk tickTock 4 [bareCall "tick"]).foldl (fun count _ => count + 1) 0 = 9 := by
    decide
  refine ⟨hdepths, hstable.2.1, ?_⟩
  rw [← hcount]
  exact hstable.1 Nat 4 0 _ 0

end

end Cartridge.Script
