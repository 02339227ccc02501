import Mathlib.Data.List.Basic
import Mathlib.Data.List.Induction

/-!
# First occurrences

Erasing repetitions from a list keeps each element where it first occurs.  The result grows with
the list at its end (`eraseDups_concat`), so its elements stand in the order of their first
occurrences (`pairwise_idxOf_eraseDups`) and none stands there twice.
-/

namespace Cartridge.FirstOccurrence

variable {α : Type} [BEq α] [LawfulBEq α]

/-- An element at the end is kept only if it is new. -/
lemma eraseDups_concat (l : List α) (a : α) :
    (l ++ [a]).eraseDups = if l.contains a then l.eraseDups else l.eraseDups ++ [a] := by
  rw [List.eraseDups_append]
  by_cases h : l.contains a
  · have hmem : a ∈ l := List.contains_iff_mem.mp h
    rw [if_pos h]
    simp [List.removeAll, hmem]
  · have hmem : a ∉ l := fun hmem => h (List.contains_iff_mem.mpr hmem)
    rw [if_neg h]
    simp [List.removeAll, hmem, List.eraseDups_cons]

lemma pairwise_idxOf_eraseDups (l : List α) :
    l.eraseDups.Pairwise fun a b => l.idxOf a < l.idxOf b := by
  induction l using List.reverseRecOn with
  | nil => simp
  | append_singleton l a ih =>
    have hold : l.eraseDups.Pairwise fun b c => (l ++ [a]).idxOf b < (l ++ [a]).idxOf c := by
      refine ih.imp_of_mem fun {b c} hb hc hlt => ?_
      rw [List.idxOf_append_of_mem (List.mem_eraseDups.mp hb),
        List.idxOf_append_of_mem (List.mem_eraseDups.mp hc)]
      exact hlt
    rw [eraseDups_concat]
    split_ifs with hcontains
    · exact hold
    · have hnew : a ∉ l := fun hmem => hcontains (List.contains_iff_mem.mpr hmem)
      refine List.pairwise_append.mpr ⟨hold, List.pairwise_singleton _ _, ?_⟩
      intro b hb c hc
      have hmem := List.mem_eraseDups.mp hb
      rw [List.mem_singleton.mp hc, List.idxOf_append_of_mem hmem,
        List.idxOf_append_of_notMem hnew]
      exact Nat.lt_add_right _ (List.idxOf_lt_length_iff.mpr hmem)

lemma nodup_eraseDups (l : List α) : l.eraseDups.Nodup := by
  refine (pairwise_idxOf_eraseDups l).imp fun {a b} hlt heq => ?_
  rw [heq] at hlt
  exact Nat.lt_irrefl _ hlt

lemma eraseDups_filter (p : α → Bool) (l : List α) :
    (l.filter p).eraseDups = l.eraseDups.filter p := by
  induction l using List.reverseRecOn with
  | nil => simp
  | append_singleton l a ih =>
    rw [List.filter_append, eraseDups_concat]
    by_cases hp : p a
    · have hcontains : (l.filter p).contains a = l.contains a := by
        rw [Bool.eq_iff_iff, List.contains_iff_mem, List.contains_iff_mem, List.mem_filter,
          and_iff_left hp]
      rw [List.filter_cons_of_pos hp, List.filter_nil, eraseDups_concat, hcontains, ih]
      split_ifs
      · rfl
      · rw [List.filter_append, List.filter_cons_of_pos hp, List.filter_nil]
    · rw [List.filter_cons_of_neg hp, List.filter_nil, List.append_nil, ih]
      split_ifs
      · rfl
      · rw [List.filter_append, List.filter_cons_of_neg hp, List.filter_nil, List.append_nil]

end Cartridge.FirstOccurrence
