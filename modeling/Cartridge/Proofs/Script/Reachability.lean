import Mathlib.Tactic.Common
import Cartridge.Script.Walk

/-!
# What a walk reaches

A walk is a function that lists visits.  Which events those are is said here without it: an event
is `Reachable` from a script if it is an enabled event of the script, an enabled event in a branch
of a reachable one, or an enabled event of the body that a reachable call runs, as long as fewer
calls than the levels of the walk lie around the call.  A walk visits exactly the reachable events,
each at the number of calls around it (`mem_walk_iff`), and a walk over scenes does so for the
scripts of every owner (`mem_walkScenes_iff`).

The visits of a script at one depth go by the nesting of its branches (`Encloses`); the levels of a
walk are then stacked one on the other (`mem_walkFrom_iff`).
-/

namespace Cartridge.Script

open Cartridge.Project (CustomEvent Scene)

/-! ## Branches -/

/-- The second event is the first or stands in its branches, and all events around it are
enabled, as it is itself. -/
inductive Encloses : Event → Event → Prop
  | self {event : Event} (henabled : event.isDisabled = false) : Encloses event event
  | branch {event inner found : Event} {name : String} {body : List Event}
    (henabled : event.isDisabled = false) (hbranch : (name, body) ∈ event.branches)
    (hinner : inner ∈ body) (hfound : Encloses inner found) : Encloses event found

lemma Encloses.inside {event found inner : Event} (h : Encloses event found) {name : String}
    {body : List Event} (hbranch : (name, body) ∈ found.branches) (hinner : inner ∈ body)
    (henabled : inner.isDisabled = false) : Encloses event inner := by
  induction h with
  | self houter => exact .branch houter hbranch hinner (.self henabled)
  | branch houter hname hmem _ ih => exact .branch houter hname hmem (ih hbranch)

section

variable {inner : Event → List Visit} {depth : Nat}

mutual

lemma mem_visitEvent_iff : ∀ {event : Event} {visit : Visit},
    visit ∈ visitEvent inner depth event ↔
      ∃ found, Encloses event found ∧ (visit = ⟨found, depth⟩ ∨ visit ∈ inner found)
  | ⟨id, command, args, branches⟩, visit => by
    rw [visitEvent]
    constructor
    · intro hvisit
      split_ifs at hvisit with hdisabled
      · exact absurd hvisit List.not_mem_nil
      · rw [Bool.not_eq_true] at hdisabled
        rcases List.mem_cons.mp hvisit with rfl | hvisit
        · exact ⟨_, .self hdisabled, .inl rfl⟩
        rcases List.mem_append.mp hvisit with hvisit | hvisit
        · obtain ⟨name, body, hbranch, event, hevent, found, hfound, hcases⟩ :=
            mem_visitBranches_iff.mp hvisit
          exact ⟨found, .branch hdisabled hbranch hevent hfound, hcases⟩
        · exact ⟨_, .self hdisabled, .inr hvisit⟩
    · rintro ⟨found, hfound, hcases⟩
      cases hfound with
      | self henabled =>
        rw [if_neg (ne_true_of_eq_false henabled)]
        rcases hcases with rfl | hinner
        · exact List.mem_cons_self
        · exact List.mem_cons_of_mem _ (List.mem_append_right _ hinner)
      | branch henabled hbranch hevent hfound =>
        rw [if_neg (ne_true_of_eq_false henabled)]
        refine List.mem_cons_of_mem _ (List.mem_append_left _ ?_)
        exact mem_visitBranches_iff.mpr ⟨_, _, hbranch, _, hevent, found, hfound, hcases⟩

/-- The visits of a script at its own depth are the enclosed events; the others are inside the
bodies that those call. -/
lemma mem_visitEvents_iff : ∀ {events : List Event} {visit : Visit},
    visit ∈ visitEvents inner depth events ↔ ∃ event ∈ events,
      ∃ found, Encloses event found ∧ (visit = ⟨found, depth⟩ ∨ visit ∈ inner found)
  | [], visit => by simp [visitEvents]
  | event :: rest, visit => by
    rw [visitEvents, List.mem_append, mem_visitEvent_iff, mem_visitEvents_iff]
    simp only [List.mem_cons, exists_eq_or_imp]

lemma mem_visitBranches_iff : ∀ {branches : List (String × List Event)} {visit : Visit},
    visit ∈ visitBranches inner depth branches ↔ ∃ name body, (name, body) ∈ branches ∧
      ∃ event ∈ body, ∃ found, Encloses event found ∧
        (visit = ⟨found, depth⟩ ∨ visit ∈ inner found)
  | [], visit => by simp [visitBranches]
  | (name, body) :: rest, visit => by
    rw [visitBranches, List.mem_append, mem_visitEvents_iff, mem_visitBranches_iff]
    constructor
    · rintro (hbody | ⟨other, body', hbranch, hrest⟩)
      · exact ⟨name, body, List.mem_cons_self, hbody⟩
      · exact ⟨other, body', List.mem_cons_of_mem _ hbranch, hrest⟩
    · rintro ⟨other, body', hbranch, hrest⟩
      rcases List.mem_cons.mp hbranch with heq | hbranch
      · cases heq
        exact .inl hrest
      · exact .inr ⟨other, body', hbranch, hrest⟩

end

end

/-! ## Levels -/

variable {library : List CustomEvent}

variable {visit : Visit} {body : List Event}

/-- A walk visits what its script encloses, and with a level left the bodies that are called from
there. -/
lemma mem_walkFrom_iff {levels depth : Nat} {events : List Event} :
    visit ∈ walkFrom library levels depth events ↔ ∃ event ∈ events,
      ∃ found, Encloses event found ∧ (visit = ⟨found, depth⟩ ∨
        ∃ below body, levels = below + 1 ∧ bodyOf? library found = some body ∧
          visit ∈ walkFrom library below (depth + 1) body) := by
  cases levels with
  | zero => simp [walkFrom, mem_visitEvents_iff]
  | succ levels =>
    rw [walkFrom, mem_visitEvents_iff]
    constructor
    · rintro ⟨event, hevent, found, hfound, rfl | hinner⟩
      · exact ⟨event, hevent, found, hfound, .inl rfl⟩
      · cases hbody : bodyOf? library found with
        | none =>
          rw [hbody] at hinner
          exact absurd hinner List.not_mem_nil
        | some body =>
          rw [hbody] at hinner
          exact ⟨event, hevent, found, hfound, .inr ⟨levels, body, rfl, hbody, hinner⟩⟩
    · rintro ⟨event, hevent, found, hfound, rfl | ⟨_, body, hlevels, hbody, hinner⟩⟩
      · exact ⟨event, hevent, found, hfound, .inl rfl⟩
      · cases hlevels
        exact ⟨event, hevent, found, hfound, .inr (by rw [hbody]; exact hinner)⟩

/-- A walk that visits a call with a level left visits the body of the call. -/
lemma walkFrom_subset_of_visit {below : Nat} (hbody : bodyOf? library visit.event = some body)
    (levels depth : Nat) (events : List Event)
    (hvisit : visit ∈ walkFrom library levels depth events)
    (hbelow : visit.depth + (below + 1) = depth + levels) :
    walkFrom library below (visit.depth + 1) body ⊆ walkFrom library levels depth events := by
  induction levels generalizing depth events with
  | zero =>
    obtain ⟨event, -, found, -, rfl | ⟨_, _, hlevels, -⟩⟩ := mem_walkFrom_iff.mp hvisit
    · have hdepth : depth + (below + 1) = depth + 0 := hbelow
      omega
    · cases hlevels
  | succ levels ih =>
    intro inner hinner
    obtain ⟨event, hevent, found, hfound, rfl | ⟨_, called, hlevels, hcalled, hvisit⟩⟩ :=
      mem_walkFrom_iff.mp hvisit
    · have hdepth : depth + (below + 1) = depth + (levels + 1) := hbelow
      obtain rfl : below = levels := by omega
      exact mem_walkFrom_iff.mpr ⟨event, hevent, found, hfound, .inr ⟨_, body, rfl, hbody, hinner⟩⟩
    · cases hlevels
      have hsubset := ih (depth + 1) called hvisit (by omega)
      exact mem_walkFrom_iff.mpr
        ⟨event, hevent, found, hfound, .inr ⟨_, called, rfl, hcalled, hsubset hinner⟩⟩

lemma mem_walkFrom_of_branch {name : String} {inner : Event}
    (hbranch : (name, body) ∈ visit.event.branches) (hinner : inner ∈ body)
    (henabled : inner.isDisabled = false) (levels depth : Nat) (events : List Event)
    (hvisit : visit ∈ walkFrom library levels depth events) :
    ⟨inner, visit.depth⟩ ∈ walkFrom library levels depth events := by
  induction levels generalizing depth events with
  | zero =>
    obtain ⟨event, hevent, found, hfound, rfl | ⟨_, _, hlevels, -⟩⟩ := mem_walkFrom_iff.mp hvisit
    · exact mem_walkFrom_iff.mpr
        ⟨event, hevent, inner, hfound.inside hbranch hinner henabled, .inl rfl⟩
    · cases hlevels
  | succ levels ih =>
    obtain ⟨event, hevent, found, hfound, rfl | ⟨_, called, hlevels, hcalled, hvisit⟩⟩ :=
      mem_walkFrom_iff.mp hvisit
    · exact mem_walkFrom_iff.mpr
        ⟨event, hevent, inner, hfound.inside hbranch hinner henabled, .inl rfl⟩
    · cases hlevels
      exact mem_walkFrom_iff.mpr
        ⟨event, hevent, found, hfound, .inr ⟨_, called, rfl, hcalled, ih _ called hvisit⟩⟩

/-! ## Reachable events -/

/-- An event is reachable from a script, with a number of calls around it. -/
inductive Reachable (library : List CustomEvent) (levels : Nat) (script : List Event) :
    Nat → Event → Prop
  /-- An enabled event of the script. -/
  | own {event : Event} (hevent : event ∈ script) (henabled : event.isDisabled = false) :
    Reachable library levels script 0 event
  /-- An enabled event in a branch of a reachable one. -/
  | branch {depth : Nat} {event inner : Event} {name : String} {body : List Event}
    (hevent : Reachable library levels script depth event)
    (hbranch : (name, body) ∈ event.branches) (hinner : inner ∈ body)
    (henabled : inner.isDisabled = false) : Reachable library levels script depth inner
  /-- An enabled event of the bound body of a custom event that a reachable event calls, if few
  enough calls lie around that event. -/
  | call {depth : Nat} {event inner : Event} {custom : CustomEvent}
    (hevent : Reachable library levels script depth event) (hdepth : depth < levels)
    (hcommand : event.command = Command.callCustom)
    (hcallee : callee? library event = some custom)
    (hinner : inner ∈ bindEvents event.args custom.script)
    (henabled : inner.isDisabled = false) : Reachable library levels script (depth + 1) inner

lemma bodyOf?_eq_some_iff {event : Event} :
    bodyOf? library event = some body ↔
      event.command = Command.callCustom ∧
        ∃ custom, callee? library event = some custom ∧
          bindEvents event.args custom.script = body := by
  rw [bodyOf?]
  split_ifs with hcommand
  · simp [calledBody?, hcommand]
  · simp [hcommand]

section

variable {levels : Nat} {script : List Event}

variable {depth : Nat}

lemma Reachable.encloses {event found : Event} (h : Encloses event found)
    (hreach : event.isDisabled = false → Reachable library levels script depth event) :
    Reachable library levels script depth found := by
  induction h with
  | self henabled => exact hreach henabled
  | branch henabled hbranch hinner _ ih =>
    exact ih fun h => (hreach henabled).branch hbranch hinner h

lemma reachable_of_mem_walkFrom {left : Nat} {events : List Event} {visit : Visit}
    (hlevels : depth + left = levels)
    (hevents : ∀ event ∈ events, event.isDisabled = false →
      Reachable library levels script depth event)
    (hvisit : visit ∈ walkFrom library left depth events) :
    Reachable library levels script visit.depth visit.event := by
  induction left generalizing depth events with
  | zero =>
    obtain ⟨event, hevent, found, hfound, rfl | ⟨_, _, hleft, -⟩⟩ := mem_walkFrom_iff.mp hvisit
    · exact Reachable.encloses hfound (hevents event hevent)
    · cases hleft
  | succ left ih =>
    obtain ⟨event, hevent, found, hfound, rfl | ⟨_, body, hleft, hbody, hvisit⟩⟩ :=
      mem_walkFrom_iff.mp hvisit
    · exact Reachable.encloses hfound (hevents event hevent)
    · cases hleft
      have hreach := Reachable.encloses hfound (hevents event hevent)
      obtain ⟨hcommand, custom, hcallee, rfl⟩ := bodyOf?_eq_some_iff.mp hbody
      refine ih (by omega) (fun inner hinner henabled => ?_) hvisit
      exact hreach.call (by omega) hcommand hcallee hinner henabled

/-- A walk visits exactly the reachable events. -/
lemma mem_walk_iff {event : Event} :
    ⟨event, depth⟩ ∈ walk library levels script ↔
      Reachable library levels script depth event := by
  constructor
  · exact reachable_of_mem_walkFrom (Nat.zero_add levels) fun _ hevent henabled =>
      .own hevent henabled
  · intro h
    induction h with
    | own hevent henabled =>
      exact mem_walkFrom_iff.mpr ⟨_, hevent, _, .self henabled, .inl rfl⟩
    | branch _ hbranch hinner henabled ih =>
      exact mem_walkFrom_of_branch hbranch hinner henabled levels 0 script ih
    | @call depth event inner custom _ hdepth hcommand hcallee hinner henabled ih =>
      have hbody := bodyOf?_eq_some_iff.mpr ⟨hcommand, custom, hcallee, rfl⟩
      have hlevels : depth + (levels - depth - 1 + 1) = 0 + levels := by omega
      have hmem : ⟨inner, depth + 1⟩ ∈ walkFrom library (levels - depth - 1) (depth + 1)
          (bindEvents event.args custom.script) :=
        mem_walkFrom_iff.mpr ⟨inner, hinner, inner, .self henabled, .inl rfl⟩
      exact walkFrom_subset_of_visit hbody levels 0 script ih hlevels hmem

end

lemma mem_walkScenes {levels : Nat} {scenes : List Scene} {owner : Owner} {visit : Visit} :
    (owner, visit) ∈ walkScenes library levels scenes ↔ ∃ scene ∈ scenes,
      owner ∈ owners scene ∧ ∃ slot ∈ owner.slots, visit ∈ walk library levels slot.2 := by
  simp only [walkScenes, walkScene, List.mem_flatMap, List.mem_map, Prod.mk.injEq]
  constructor
  · rintro ⟨scene, hscene, _, howner, slot, hslot, _, hvisit, rfl, rfl⟩
    exact ⟨scene, hscene, howner, slot, hslot, hvisit⟩
  · rintro ⟨scene, hscene, howner, slot, hslot, hvisit⟩
    exact ⟨scene, hscene, owner, howner, slot, hslot, visit, hvisit, rfl, rfl⟩

/-- A walk over scenes visits exactly what is reachable from the scripts of their owners. -/
lemma mem_walkScenes_iff {levels depth : Nat} {scenes : List Scene} {owner : Owner}
    {event : Event} :
    (owner, ⟨event, depth⟩) ∈ walkScenes library levels scenes ↔
      ∃ scene ∈ scenes, owner ∈ owners scene ∧
        ∃ slot ∈ owner.slots, Reachable library levels slot.2 depth event := by
  simp only [mem_walkScenes, mem_walk_iff]

end Cartridge.Script
