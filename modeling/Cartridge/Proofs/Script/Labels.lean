import Mathlib.Data.List.Nodup
import Mathlib.Tactic.SplitIfs
import Cartridge.Proofs.Script.Machine

/-!
# The labels of a listing

Laying out code after `drawn` labels draws the labels behind `drawn`, and places each of them
once.  An event with branches draws the labels of its end and of all its branches before the
bodies are laid out, so inside an event the labels do not stand in order; what counts is how often
each label stands there (`Draws`).
-/

namespace Cartridge.Script

open Machine

/-- Instructions laid out after `drawn` labels, with the number of labels drawn then, place each
label drawn in between once and no other label. -/
structure Draws (drawn : Nat) (out : List Instruction × Nat) : Prop where
  le : drawn ≤ out.2
  count : ∀ n, (placed out.1).count n = if drawn < n ∧ n ≤ out.2 then 1 else 0

/-- The bodies of `size` branches, whose labels from `first` on were drawn before, place those
labels too. -/
structure DrawsBranches (first size drawn : Nat) (out : List Instruction × Nat) : Prop where
  le : drawn ≤ out.2
  count : ∀ n, (placed out.1).count n =
    (if first ≤ n ∧ n < first + size then 1 else 0) + if drawn < n ∧ n ≤ out.2 then 1 else 0

/-! ## Lines without labels -/

lemma placed_eq_nil {lines : List Instruction} (h : ∀ line ∈ lines, ∀ n, line ≠ .label n) :
    placed lines = [] := by
  induction lines with
  | nil => rfl
  | cons line rest ih =>
    rw [placed_cons_of_ne (h line (by simp))]
    exact ih fun l hl => h l (by simp [hl])

@[simp] lemma placed_eventBlock (command : String) (args : List String) :
    placed (eventBlock command args) = [] := by
  apply placed_eq_nil
  simp [eventBlock]

@[simp] lemma placed_branchTable (first : Nat) (branches : List (String × List Code)) :
    placed (branchTable first branches) = [] := by
  induction branches generalizing first with
  | nil => rfl
  | cons branch rest ih =>
    obtain ⟨name, body⟩ := branch
    rw [branchTable, placed_cons_of_ne (by simp)]
    exact ih (first + 1)

/-- Lines without labels draw nothing. -/
lemma Draws.of_placed_eq_nil {lines : List Instruction} (h : placed lines = []) (drawn : Nat) :
    Draws drawn (lines, drawn) where
  le := Nat.le_refl drawn
  count n := by
    rw [h, List.count_nil, if_neg (by omega)]

/-! ## One case for each kind of code -/

/-- A guarded part draws the labels of its body and of its end before the body is laid out. -/
lemma Draws.guarded {drawn : Nat} {inner : List Instruction × Nat} (h : Draws (drawn + 2) inner)
    (parameter value : Nat) :
    Draws drawn ([.jumpIfParameter parameter value (drawn + 1), .jump (drawn + 2),
      .label (drawn + 1)] ++ inner.1 ++ [.label (drawn + 2)], inner.2) where
  le := by
    have hle := h.le
    show drawn ≤ inner.2
    omega
  count n := by
    have hle := h.le
    have hcount := h.count n
    simp only [List.cons_append, List.nil_append, placed_append, placed_cons_label, placed_nil,
      placed_cons_of_ne, ne_eq, reduceCtorEq, not_false_eq_true, implies_true,
      List.count_append, List.count_cons, List.count_nil, beq_iff_eq, hcount]
    split_ifs <;> omega

/-- An event draws the label of its end and the labels of its branches before the bodies. -/
lemma Draws.branching {drawn size : Nat} {bodies : List Instruction × Nat}
    (h : DrawsBranches (drawn + 2) size (drawn + 1 + size) bodies)
    {table : List Instruction} (htable : placed table = []) :
    Draws drawn (table ++ [.jump (drawn + 1)] ++ bodies.1 ++ [.label (drawn + 1)], bodies.2) where
  le := by
    have hle := h.le
    show drawn ≤ bodies.2
    omega
  count n := by
    have hle := h.le
    have hcount := h.count n
    simp only [placed_append, placed_cons_label, placed_nil, htable, List.nil_append,
      placed_cons_of_ne, ne_eq, reduceCtorEq, not_false_eq_true, implies_true,
      List.count_append, List.count_cons, List.count_nil, beq_iff_eq, hcount]
    split_ifs <;> omega

/-- Code after code draws the labels behind those of the first. -/
lemma Draws.append {drawn : Nat} {first others : List Instruction × Nat} (h : Draws drawn first)
    (h' : Draws first.2 others) : Draws drawn (first.1 ++ others.1, others.2) where
  le := Nat.le_trans h.le h'.le
  count n := by
    have hle := h.le
    have hle' := h'.le
    simp only [placed_append, List.count_append, h.count n, h'.count n]
    split_ifs <;> omega

lemma DrawsBranches.nil (first drawn : Nat) : DrawsBranches first 0 drawn ([], drawn) where
  le := Nat.le_refl drawn
  count n := by
    rw [if_neg (by omega), if_neg (by omega)]
    rfl

lemma DrawsBranches.cons {first size drawn final : Nat} {inner others : List Instruction × Nat}
    (h : Draws drawn inner) (h' : DrawsBranches (first + 1) size inner.2 others) :
    DrawsBranches first (size + 1) drawn
      (.label first :: (inner.1 ++ .jump final :: others.1), others.2) where
  le := Nat.le_trans h.le h'.le
  count n := by
    have hle := h.le
    have hle' := h'.le
    simp only [placed_append, placed_cons_label, placed_cons_of_ne, ne_eq, reduceCtorEq,
      not_false_eq_true, implies_true, List.count_append, List.count_cons, beq_iff_eq, h.count n,
      h'.count n]
    split_ifs <;> omega

/-! ## The layout -/

mutual

lemma draws_layoutStep (drawn : Nat) : ∀ code, Draws drawn (layoutStep drawn code)
  | .comment _ => .of_placed_eq_nil rfl drawn
  | .spriteMode _ => .of_placed_eq_nil rfl drawn
  | .fadeIn _ => .of_placed_eq_nil rfl drawn
  | .call _ => .of_placed_eq_nil rfl drawn
  | .guarded parameter value body => (draws_layout (drawn + 2) body).guarded parameter value
  | .event command args [] => by
    rw [layoutStep]
    exact .of_placed_eq_nil (placed_eventBlock command args) drawn
  | .event command args (branch :: rest) => by
    rw [layoutStep]
    exact Draws.branching (draws_layoutBranches _ _ _ (branch :: rest)) (by simp)

/-- Every label that is drawn is placed once. -/
lemma draws_layout (drawn : Nat) : ∀ code, Draws drawn (layout drawn code)
  | [] => .of_placed_eq_nil rfl drawn
  | code :: rest => (draws_layoutStep drawn code).append (draws_layout _ rest)

lemma draws_layoutBranches (final first drawn : Nat) :
    ∀ branches, DrawsBranches first branches.length drawn
      (layoutBranches final first drawn branches)
  | [] => .nil first drawn
  | (_, body) :: rest =>
    .cons (draws_layout drawn body) (draws_layoutBranches final (first + 1) _ rest)

end

lemma Draws.nodup {drawn : Nat} {out : List Instruction × Nat} (h : Draws drawn out) :
    (placed out.1).Nodup := by
  rw [List.nodup_iff_count_le_one]
  intro n
  rw [h.count n]
  split_ifs <;> omega

end Cartridge.Script
