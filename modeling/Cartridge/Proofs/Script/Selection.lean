import Cartridge.Proofs.Script.ControlFlow
import Cartridge.Script.Variants

/-!
# Which variants run

Joined variants are meant to run the scripts of those whose parameter has their value
(`selectedScript`).  With a guard around each variant this is what they do
(`eventsTrace_map_guarded`).  A collapsible policy drops the guard of a variant that is alone, and
then its script runs whatever the parameter is (`joinVariants_of_isLone`).

Idle events are passed over by every run (`eventsTrace_of_isIdle`).
-/

namespace Cartridge.Script

section Trace

variable (scope : Scope) (around : Surroundings) (call : Event → List Instruction)

lemma eventsTrace_append (first second : List Event) (asked : Nat) :
    eventsTrace scope around call (first ++ second) asked =
      let before := eventsTrace scope around call first asked
      let behind := eventsTrace scope around call second before.2
      (before.1 ++ behind.1, behind.2) := by
  induction first generalizing asked with
  | nil => rfl
  | cons event rest ih =>
    rw [List.cons_append, eventsTrace, eventsTrace, ih]
    simp only [List.append_assoc]

/-- Parts of a script that run alike may be put for each other. -/
lemma eventsTrace_append_congr {first first' second second' : List Event}
    (hfirst : ∀ asked, eventsTrace scope around call first asked =
      eventsTrace scope around call first' asked)
    (hsecond : ∀ asked, eventsTrace scope around call second asked =
      eventsTrace scope around call second' asked) (asked : Nat) :
    eventsTrace scope around call (first ++ second) asked =
      eventsTrace scope around call (first' ++ second') asked := by
  simp only [eventsTrace_append, hfirst, hsecond]

lemma eventTrace_of_isIdle {event : Event} (h : event.isIdle = true) (asked : Nat) :
    eventTrace scope around call event asked = ([], asked) := by
  obtain ⟨id, command, args, branches⟩ := event
  rw [eventTrace]
  simp only [Event.effect, h, if_true]

lemma eventsTrace_cons_of_isIdle {event : Event} (h : event.isIdle = true) (rest : List Event)
    (asked : Nat) :
    eventsTrace scope around call (event :: rest) asked =
      eventsTrace scope around call rest asked := by
  rw [eventsTrace, eventTrace_of_isIdle scope around call h, List.nil_append]

/-- An idle script executes nothing and asks for nothing. -/
lemma eventsTrace_of_isIdle {events : List Event} (h : isIdle events = true) (asked : Nat) :
    eventsTrace scope around call events asked = ([], asked) := by
  induction events with
  | nil => rfl
  | cons event rest ih =>
    rw [isIdle, List.all_cons, Bool.and_eq_true] at h
    rw [eventsTrace_cons_of_isIdle scope around call h.1]
    exact ih h.2

end Trace

/-! ## Selected variants -/

/-- The parameter of the variant has its value. -/
def Variant.isSelected (around : Surroundings) (variant : Variant) : Bool :=
  around.parameter variant.parameter.toNat == variant.value.toNat

/-- The scripts of the variants whose parameter has their value, one behind the other. -/
def selectedScript (around : Surroundings) (variants : List Variant) : List Event :=
  (variants.filter (Variant.isSelected around)).flatMap Variant.script

section

variable {around : Surroundings}

lemma selectedScript_cons (variant : Variant) (rest : List Variant) :
    selectedScript around (variant :: rest) =
      (if variant.isSelected around then variant.script else []) ++ selectedScript around rest := by
  rw [selectedScript, List.filter_cons, selectedScript]
  split_ifs
  · exact List.flatMap_cons
  · rfl

/-- Variants that are left out have nothing to select. -/
lemma selectedScript_filter (variants : List Variant) :
    selectedScript around (variants.filter fun variant => !variant.script.isEmpty) =
      selectedScript around variants := by
  induction variants with
  | nil => rfl
  | cons variant rest ih =>
    rw [selectedScript_cons]
    by_cases hempty : variant.script = []
    · rw [List.filter_cons_of_neg (by simp [hempty]), ih, hempty, ite_self, List.nil_append]
    · rw [List.filter_cons_of_pos (by simp [hempty]), selectedScript_cons, ih]

end

/-! ## Guarded variants -/

section

variable (scope : Scope) (around : Surroundings) (call : Event → List Instruction)

lemma eventTrace_guarded (variant : Variant) (asked : Nat) :
    eventTrace scope around call variant.guarded asked =
      if variant.isSelected around then eventsTrace scope around call variant.script asked
      else ([], asked) := by
  rw [Variant.isSelected, Variant.guarded, eventTrace]
  simp only [beq_iff_eq]
  rfl

lemma eventsTrace_map_guarded (variants : List Variant) (asked : Nat) :
    eventsTrace scope around call (variants.map Variant.guarded) asked =
      eventsTrace scope around call (selectedScript around variants) asked := by
  induction variants generalizing asked with
  | nil => rfl
  | cons variant rest ih =>
    rw [List.map_cons, eventsTrace, eventTrace_guarded, selectedScript_cons]
    split_ifs
    · rw [eventsTrace_append, ih]
    · exact ih asked

end

/-! ## Joined variants -/

/-- The variant is the only one with a script, and the policy needs no guard then. -/
def IsLone (policy : JoinPolicy) (variants : List Variant) (variant : Variant) : Prop :=
  policy.isCollapsible = true ∧
    (variants.filter fun variant => !variant.script.isEmpty) = [variant]

section

variable {policy : JoinPolicy} {variants : List Variant}

lemma joinVariants_of_isLone {variant : Variant} (h : IsLone policy variants variant) :
    joinVariants policy variants = variant.script := by
  simp only [joinVariants, h.1, h.2]

lemma joinVariants_of_not_isLone (h : ∀ variant, ¬IsLone policy variants variant) :
    joinVariants policy variants =
      (variants.filter fun variant => !variant.script.isEmpty).map Variant.guarded := by
  simp only [joinVariants]
  split
  · next variant hcollapsible hpresent => exact absurd ⟨hcollapsible, hpresent⟩ (h variant)
  · rfl

lemma selectedScript_of_isLone {around : Surroundings} {variant : Variant}
    (h : IsLone policy variants variant) :
    selectedScript around variants = if variant.isSelected around then variant.script else [] := by
  rw [← selectedScript_filter, h.2, selectedScript_cons]
  exact List.append_nil _

variable (scope : Scope) (around : Surroundings) (call : Event → List Instruction)

/-- Where no variant is alone, joined variants run the selected scripts. -/
lemma eventsTrace_joinVariants (h : ∀ variant, ¬IsLone policy variants variant) (asked : Nat) :
    eventsTrace scope around call (joinVariants policy variants) asked =
      eventsTrace scope around call (selectedScript around variants) asked := by
  rw [joinVariants_of_not_isLone h, eventsTrace_map_guarded, selectedScript_filter]

/-- Joined variants run the selected scripts exactly when a variant that is alone is selected or
executes nothing. -/
lemma eventsTrace_joinVariants_iff (asked : Nat) :
    eventsTrace scope around call (joinVariants policy variants) asked =
        eventsTrace scope around call (selectedScript around variants) asked ↔
      ∀ variant, IsLone policy variants variant → variant.isSelected around = true ∨
        eventsTrace scope around call variant.script asked = ([], asked) := by
  by_cases hlone : ∃ variant, IsLone policy variants variant
  · obtain ⟨variant, hvariant⟩ := hlone
    have honly : ∀ other, IsLone policy variants other → other = variant := by
      intro other hother
      exact List.singleton_inj.mp (hother.2.symm.trans hvariant.2)
    rw [joinVariants_of_isLone hvariant, selectedScript_of_isLone hvariant]
    cases hselected : variant.isSelected around with
    | false =>
      -- nothing is selected, so the two sides agree if the unguarded script executes nothing
      rw [if_neg Bool.false_ne_true]
      constructor
      · intro htrace other hother
        rw [honly other hother]
        exact .inr htrace
      · intro hlone
        exact (hlone variant hvariant).resolve_left (by simp [hselected])
    | true =>
      rw [if_pos rfl]
      refine iff_of_true rfl fun other hother => ?_
      rw [honly other hother]
      exact .inl hselected
  · rw [not_exists] at hlone
    exact iff_of_true (eventsTrace_joinVariants scope around call hlone asked)
      fun variant hvariant => absurd hvariant (hlone variant)

end

end Cartridge.Script
