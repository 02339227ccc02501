import Mathlib.Data.List.Forall2
import Mathlib.Tactic.Common

/-!
# Steps that may fail

Steps that answer a result or an error are taken one after the other, and the first error ends
them.  So a list of steps succeeds when each of them does (`forall₂_of_mapM_eq_ok`).
-/

namespace Cartridge

/-- Two steps succeed together when both do. -/
lemma bind_eq_ok {ε α β : Type} {first : Except ε α} {next : α → Except ε β} {b : β} :
    (first >>= next) = .ok b ↔ ∃ a, first = .ok a ∧ next a = .ok b := by
  cases first with
  | error e =>
    constructor
    · rintro ⟨⟩
    · rintro ⟨_, ⟨⟩, _⟩
  | ok a =>
    constructor
    · exact fun h => ⟨a, rfl, h⟩
    · rintro ⟨_, ⟨⟩, h⟩
      exact h

/-- A list of steps that succeeds has one result for each step. -/
lemma forall₂_of_mapM_eq_ok {ε α β : Type} {step : α → Except ε β} {inputs : List α}
    {outputs : List β} (h : inputs.mapM step = .ok outputs) :
    List.Forall₂ (fun input output => step input = .ok output) inputs outputs := by
  induction inputs generalizing outputs with
  | nil =>
    cases h
    exact .nil
  | cons input rest ih =>
    rw [List.mapM_cons, bind_eq_ok] at h
    obtain ⟨first, hfirst, h⟩ := h
    obtain ⟨others, hothers, h⟩ := bind_eq_ok.mp h
    cases h
    exact .cons hfirst (ih hothers)

lemma mapM_eq_ok_iff {ε α β : Type} {step : α → Except ε β} {inputs : List α} {outputs : List β} :
    inputs.mapM step = .ok outputs ↔
      List.Forall₂ (fun input output => step input = .ok output) inputs outputs := by
  refine ⟨forall₂_of_mapM_eq_ok, fun h => ?_⟩
  induction h with
  | nil => rfl
  | cons hfirst _ ih =>
    rw [List.mapM_cons, hfirst, ih]
    rfl

lemma forall_mem_of_forall₂ {α β : Type} {related : α → β → Prop} {P : β → Prop}
    (hstep : ∀ a b, related a b → P b) {inputs : List α} {outputs : List β}
    (h : List.Forall₂ related inputs outputs) : ∀ output ∈ outputs, P output := by
  induction h with
  | nil => simp
  | cons hfirst _ ih => exact List.forall_mem_cons.mpr ⟨hstep _ _ hfirst, ih⟩

lemma map_eq_map_of_forall₂ {α β γ : Type} {related : α → β → Prop} {left : α → γ} {right : β → γ}
    (hstep : ∀ a b, related a b → right b = left a) {inputs : List α} {outputs : List β}
    (h : List.Forall₂ related inputs outputs) : outputs.map right = inputs.map left := by
  induction h with
  | nil => rfl
  | cons hfirst _ ih => rw [List.map_cons, List.map_cons, hstep _ _ hfirst, ih]

end Cartridge
