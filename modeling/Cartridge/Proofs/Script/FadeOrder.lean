import Mathlib.Tactic.Common
import Cartridge.Script.Fade

/-!
# Nothing waits for the fade before it

A script is read from its first enabled event on, with the bodies of calls behind the calls
(`reading`).  Of the events on the way only those count that fade in or have to wait for the fade.
Searching for the place of the automatic fade finds the first of them (`fadeMark?_eq`), although it
looks at one event of the script at a time and goes down into its calls.

So either a fade-in is read first and the script stays as it is, or the fade is put before the first
event of the script that leads to one that waits (`addFade_cases`).  Afterwards a fade-in is read
first, and a script where that is so gets no second one.
-/

namespace Cartridge.Script

open Cartridge.Project (CustomEvent)

/-! ## Reading a script -/

/-- The enabled events of a script in the order in which they are read: behind a call come those of
the body that it calls, down to a number of levels.  Branches are not read. -/
def reading (library : List CustomEvent) : (levels : Nat) → List Event → List Event
  | 0, events => events.filter fun event => !event.isDisabled
  | levels + 1, events =>
    (events.filter fun event => !event.isDisabled).flatMap fun event =>
      event :: reading library levels ((bodyOf? library event).getD [])

/-- The event fades in or has to wait for the fade. -/
def Event.concernsFade (schema : Schema) (event : Event) : Bool :=
  event.command == Command.fadeIn || schema.waits event.command

/-- The first event of a script that has to do with the fade. -/
def firstConcerned? (schema : Schema) (library : List CustomEvent) (script : List Event) :
    Option Event :=
  (reading library maxNesting script).find? (Event.concernsFade schema)

/-- The first event of a script that has to do with the fade is a fade-in. -/
def FadesFirst (schema : Schema) (library : List CustomEvent) (script : List Event) : Prop :=
  ∃ event, firstConcerned? schema library script = some event ∧ event.command = Command.fadeIn

/-- The first event of a script that has to do with the fade is one that waits for it. -/
def WaitsFirst (schema : Schema) (library : List CustomEvent) (script : List Event) : Prop :=
  ∃ event, firstConcerned? schema library script = some event ∧
    event.command ≠ Command.fadeIn ∧ schema.waits event.command = true

lemma reading_append (library : List CustomEvent) (levels : Nat) (first second : List Event) :
    reading library levels (first ++ second) =
      reading library levels first ++ reading library levels second := by
  cases levels with
  | zero => exact List.filter_append ..
  | succ levels => rw [reading, List.filter_append, List.flatMap_append, reading, reading]

lemma reading_nil (library : List CustomEvent) (levels : Nat) : reading library levels [] = [] := by
  cases levels <;> rfl

lemma reading_of_isDisabled {event : Event} (h : event.isDisabled = true)
    (library : List CustomEvent) (levels : Nat) : reading library levels [event] = [] := by
  cases levels <;> simp [reading, h]

/-! ## The first mark -/

section

variable (schema : Schema) (library : List CustomEvent)

/-- The mark of an event that has to do with the fade. -/
def Event.mark (event : Event) : FadeMark :=
  if event.command = Command.fadeIn then .fades else .waits

/-- The mark of the first event of a script that has to do with the fade. -/
def firstMark? (levels : Nat) (script : List Event) : Option FadeMark :=
  ((reading library levels script).find? (Event.concernsFade schema)).map Event.mark

lemma firstMark?_append (levels : Nat) (first second : List Event) :
    firstMark? schema library levels (first ++ second) =
      (firstMark? schema library levels first).or (firstMark? schema library levels second) := by
  rw [firstMark?, reading_append, List.find?_append, Option.map_or]
  rfl

lemma firstMark?_nil (levels : Nat) : firstMark? schema library levels [] = none := by
  rw [firstMark?, reading_nil]
  rfl

lemma firstMark?_cons (levels : Nat) (event : Event) (rest : List Event) :
    firstMark? schema library levels (event :: rest) =
      (firstMark? schema library levels [event]).or (firstMark? schema library levels rest) :=
  firstMark?_append schema library levels [event] rest

variable {event : Event}

lemma firstMark?_of_isDisabled (h : event.isDisabled = true) (levels : Nat) :
    firstMark? schema library levels [event] = none := by
  rw [firstMark?, reading_of_isDisabled h]
  rfl

/-- Looking at the events of a script one by one finds the first mark, if looking at a single event
does. -/
lemma findSome?_fadeMark? {levels : Nat}
    (h : ∀ event : Event, event.isDisabled = false →
      fadeMark? schema library levels event = firstMark? schema library levels [event])
    (events : List Event) :
    (events.findSome? fun inner =>
      if inner.isDisabled then none else fadeMark? schema library levels inner) =
      firstMark? schema library levels events := by
  induction events with
  | nil => rw [firstMark?_nil, List.findSome?_nil]
  | cons event rest ih =>
    have hevent : (if event.isDisabled then none else fadeMark? schema library levels event) =
        firstMark? schema library levels [event] := by
      split_ifs with hdisabled
      · rw [firstMark?_of_isDisabled schema library hdisabled]
      · exact h event (Bool.not_eq_true _ ▸ hdisabled)
    rw [List.findSome?_cons, hevent, ih, firstMark?_cons schema library levels event rest]
    cases firstMark? schema library levels [event] <;> rfl

lemma fadeMark?_of_concernsFade (h : event.concernsFade schema = true) (levels : Nat) :
    fadeMark? schema library levels event = some event.mark := by
  rw [Event.concernsFade, Bool.or_eq_true, beq_iff_eq] at h
  by_cases hfade : event.command = Command.fadeIn
  · cases levels <;> simp [fadeMark?, Event.mark, hfade]
  · cases levels <;> simp [fadeMark?, Event.mark, hfade, h.resolve_left hfade]

/-- An event makes the first mark that is read from it on. -/
lemma fadeMark?_eq (levels : Nat) (henabled : event.isDisabled = false) :
    fadeMark? schema library levels event = firstMark? schema library levels [event] := by
  induction levels generalizing event with
  | zero =>
    have hread : reading library 0 [event] = [event] := by simp [reading, henabled]
    rw [firstMark?, hread, List.find?_singleton]
    by_cases hconcerns : event.concernsFade schema = true
    · rw [fadeMark?_of_concernsFade schema library hconcerns, if_pos hconcerns, Option.map_some]
    · rw [if_neg hconcerns, Option.map_none]
      simp only [Event.concernsFade, Bool.or_eq_true, beq_iff_eq, not_or] at hconcerns
      rw [fadeMark?]
      exact (if_neg hconcerns.1).trans (if_neg hconcerns.2)
  | succ levels ih =>
    have hread : reading library (levels + 1) [event] =
        event :: reading library levels ((bodyOf? library event).getD []) := by
      simp [reading, henabled]
    rw [firstMark?, hread]
    by_cases hconcerns : event.concernsFade schema = true
    · rw [fadeMark?_of_concernsFade schema library hconcerns, List.find?_cons_of_pos hconcerns,
        Option.map_some]
    · -- the event itself leaves no mark, and the body is looked at as it is read
      rw [List.find?_cons_of_neg hconcerns]
      simp only [Event.concernsFade, Bool.or_eq_true, beq_iff_eq, not_or] at hconcerns
      rw [fadeMark?]
      refine (if_neg hconcerns.1).trans ((if_neg hconcerns.2).trans ?_)
      exact findSome?_fadeMark? schema library (fun inner => ih) _

/-! ## The place of the fade -/

variable {schema library}

variable {script : List Event}

lemma firstMark?_eq_fades_iff :
    firstMark? schema library maxNesting script = some .fades ↔
      FadesFirst schema library script := by
  rw [firstMark?, Option.map_eq_some_iff]
  refine exists_congr fun event => and_congr_right fun _ => ?_
  rw [Event.mark]
  split_ifs with hfade <;> simp [hfade]

lemma firstMark?_eq_waits_iff :
    firstMark? schema library maxNesting script = some .waits ↔
      WaitsFirst schema library script := by
  rw [firstMark?, Option.map_eq_some_iff]
  refine exists_congr fun event => and_congr_right fun hfound => ?_
  have hconcerns := List.find?_some hfound
  rw [Event.concernsFade, Bool.or_eq_true, beq_iff_eq] at hconcerns
  rw [Event.mark]
  split_ifs with hfade
  · simp [hfade]
  · simpa [hfade] using hconcerns.resolve_left hfade

lemma firstMark?_eq_none_iff :
    firstMark? schema library maxNesting script = none ↔
      firstConcerned? schema library script = none :=
  Option.map_eq_none_iff

variable (schema library) in
/-- The place of the fade in a script whose first event has the given index, said by what is read
first: before the first event that leads to one that waits, or behind all of them. -/
inductive PlacedAt (index : Nat) : List Event → FadePoint → Prop
  | manual {script : List Event} (hfades : FadesFirst schema library script) :
      PlacedAt index script .manual
  | before {front rest : List Event} {event : Event}
      (hfront : firstConcerned? schema library front = none)
      (hwaits : WaitsFirst schema library [event]) :
      PlacedAt index (front ++ event :: rest) (.before (index + front.length))
  | append {script : List Event} (hnone : firstConcerned? schema library script = none) :
      PlacedAt index script .append

/-- An event that has nothing to do with the fade only moves its place. -/
lemma PlacedAt.cons {index : Nat} {event : Event} {rest : List Event} {point : FadePoint}
    (hnone : firstMark? schema library maxNesting [event] = none)
    (h : PlacedAt schema library (index + 1) rest point) :
    PlacedAt schema library index (event :: rest) point := by
  have hcons : ∀ script, firstMark? schema library maxNesting (event :: script) =
      firstMark? schema library maxNesting script := by
    intro script
    rw [firstMark?_cons, hnone, Option.none_or]
  cases h with
  | manual hfades =>
    refine .manual (firstMark?_eq_fades_iff.mp ?_)
    rw [hcons, firstMark?_eq_fades_iff.mpr hfades]
  | @before front rest waiting hfront hwaits =>
    have hfront' : firstConcerned? schema library (event :: front) = none := by
      rw [← firstMark?_eq_none_iff, hcons, firstMark?_eq_none_iff.mpr hfront]
    have hplace : index + 1 + front.length = index + (event :: front).length := by
      rw [List.length_cons, Nat.add_assoc, Nat.add_comm 1]
    rw [hplace]
    exact .before hfront' hwaits
  | append hrest =>
    refine .append ?_
    rw [← firstMark?_eq_none_iff, hcons, firstMark?_eq_none_iff.mpr hrest]

variable (schema library) in
/-- The search goes by what is read first. -/
lemma placedAt_fadePointFrom (index : Nat) (script : List Event) :
    PlacedAt schema library index script (fadePointFrom schema library index script) := by
  induction script generalizing index with
  | nil => exact .append rfl
  | cons event rest ih =>
    rw [fadePointFrom]
    by_cases hdisabled : event.isDisabled = true
    · rw [if_pos hdisabled]
      exact (ih (index + 1)).cons (firstMark?_of_isDisabled schema library hdisabled maxNesting)
    · rw [if_neg hdisabled,
        fadeMark?_eq schema library maxNesting (Bool.not_eq_true _ ▸ hdisabled)]
      split
      · rename_i hfades
        refine .manual (firstMark?_eq_fades_iff.mp ?_)
        rw [firstMark?_cons, hfades, Option.some_or]
      · rename_i hwaits
        have hempty : firstConcerned? schema library [] = none := rfl
        have hplaced : PlacedAt schema library index ([] ++ event :: rest) _ :=
          .before hempty (firstMark?_eq_waits_iff.mp hwaits)
        exact hplaced
      · rename_i hnone
        exact (ih (index + 1)).cons hnone

lemma fadePoint_of_fadesFirst {script : List Event} (h : FadesFirst schema library script) :
    fadePoint schema library script = .manual := by
  have hmark := firstMark?_eq_fades_iff.mpr h
  have hplaced := placedAt_fadePointFrom schema library 0 script
  rw [fadePoint]
  generalize fadePointFrom schema library 0 script = point at hplaced
  cases hplaced with
  | manual => rfl
  | before hfront hwaits =>
    rw [firstMark?_append, firstMark?_eq_none_iff.mpr hfront, Option.none_or, firstMark?_cons,
      firstMark?_eq_waits_iff.mpr hwaits] at hmark
    cases hmark
  | append hnone =>
    rw [firstMark?_eq_none_iff.mpr hnone] at hmark
    cases hmark

/-- A script where a fade-in is read first gets no other one. -/
lemma addFade_of_fadesFirst {script : List Event} (h : FadesFirst schema library script)
    (speed : Option UInt8) : addFade schema library speed script = script := by
  cases speed with
  | none => rfl
  | some speed => rw [addFade, fadePoint_of_fadesFirst h]

variable (schema library) in
/-- A script stays as it is, or is cut in two with the fade between the parts. -/
lemma addFade_cases (speed : UInt8) (script : List Event) :
    (addFade schema library (some speed) script = script ∧ FadesFirst schema library script) ∨
      ∃ front back, script = front ++ back ∧
        addFade schema library (some speed) script = front ++ fadeEvent speed :: back ∧
        firstConcerned? schema library front = none ∧
        ∀ event ∈ back.head?, WaitsFirst schema library [event] := by
  have hplaced := placedAt_fadePointFrom schema library 0 script
  rw [addFade, fadePoint]
  generalize fadePointFrom schema library 0 script = point at hplaced
  cases hplaced with
  | manual hfades => exact .inl ⟨rfl, hfades⟩
  | @before front rest event hfront hwaits =>
    refine .inr ⟨front, event :: rest, rfl, by simp, hfront, fun head hhead => ?_⟩
    cases hhead
    exact hwaits
  | append hnone => exact .inr ⟨script, [], by simp, rfl, hnone, by simp⟩

/-- The fade is read first where nothing before it has to do with it. -/
lemma fadesFirst_of_fadeEvent {front : List Event} (h : firstConcerned? schema library front = none)
    (speed : UInt8) (back : List Event) :
    FadesFirst schema library (front ++ fadeEvent speed :: back) := by
  have hfade : firstMark? schema library maxNesting [fadeEvent speed] = some .fades := by
    rw [← fadeMark?_eq schema library maxNesting rfl]
    rfl
  refine firstMark?_eq_fades_iff.mp ?_
  rw [firstMark?_append, firstMark?_eq_none_iff.mpr h, Option.none_or, firstMark?_cons, hfade,
    Option.some_or]

end

/-- Without a speed a script stays as it is.  With a speed it stays as it is if a fade-in is read
first; else it is cut before the first event that leads to one that waits, or at its end, and the
fade stands at the cut.  In what comes out a fade-in is read first, and nothing is added to it any
more. -/
theorem fade_read_before_waiting (schema : Schema) (library : List CustomEvent)
    (script : List Event) :
    addFade schema library none script = script ∧
      ∀ speed : UInt8,
        (addFade schema library (some speed) script = script ∧ FadesFirst schema library script ∨
          ∃ front back, script = front ++ back ∧
            addFade schema library (some speed) script = front ++ fadeEvent speed :: back ∧
            firstConcerned? schema library front = none ∧
            ∀ event ∈ back.head?, WaitsFirst schema library [event]) ∧
        FadesFirst schema library (addFade schema library (some speed) script) ∧
        ∀ again : Option UInt8,
          addFade schema library again (addFade schema library (some speed) script) =
            addFade schema library (some speed) script := by
  refine ⟨rfl, fun speed => ?_⟩
  have hcases := addFade_cases schema library speed script
  have hfirst : FadesFirst schema library (addFade schema library (some speed) script) := by
    rcases hcases with ⟨hsame, hfades⟩ | ⟨front, back, -, hadded, hfront, -⟩
    · rwa [hsame]
    · rw [hadded]
      exact fadesFirst_of_fadeEvent hfront speed back
  exact ⟨hcases, hfirst, fun again => addFade_of_fadesFirst hfirst again⟩

-- A custom event that waits: its text is read behind the call, so the fade comes before the call.
example :
    let text : Event := { command := "EVENT_TEXT" }
    let call : Event :=
      { command := Command.callCustom, args := [("customEventId", .string "say")] }
    let library : List CustomEvent := [{ id := "say", script := [text] }]
    reading library maxNesting [call] = [call, text] ∧
      addFade .builtin library (some 2) [call] = [fadeEvent 2, call] :=
  ⟨rfl, rfl⟩

end Cartridge.Script
