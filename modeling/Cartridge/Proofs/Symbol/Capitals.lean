import Cartridge.Proofs.Symbol.Families
import Cartridge.Text.Upper

/-!
# Names in capitals

Names are handed out in their normal form, which has small letters only.  So names that are told
apart are still told apart when they are written in capitals (`nodup_upper_allocateAll`).
-/

namespace Cartridge.Symbol

/-! ## Names -/

/-- A name of small letters, digits and underscores. -/
def IsSmall (name : String) : Prop :=
  ∀ c ∈ name.toList, isPlainChar c = true ∧ ¬c.isUpper = true

lemma IsSmall.choose (a : Allocator) (preferred fallback : String) :
    IsSmall (a.choose preferred fallback) := by
  have hnormal := IsNormal.choose a preferred fallback
  intro c hc
  refine ⟨List.all_eq_true.mp (IsPlain.of_isNormal hnormal) c hc, ?_⟩
  rcases hnormal.runs.isRunChar_or_eq c hc with hrun | rfl
  · rw [isRunChar, Bool.or_eq_true, Text.isLower_iff, Text.isDigit_iff] at hrun
    rw [Text.isUpper_iff]
    omega
  · decide

/-! ## Capitals -/

lemma isPlainChar_iff {c : Char} : isPlainChar c = true ↔
    65 ≤ c.toNat ∧ c.toNat ≤ 90 ∨ 97 ≤ c.toNat ∧ c.toNat ≤ 122 ∨ 48 ≤ c.toNat ∧ c.toNat ≤ 57 ∨
      c.toNat = 95 := by
  have hunderscore : c = '_' ↔ c.toNat = 95 := Char.toNat_inj.symm
  rw [isPlainChar, isWordChar, Bool.or_eq_true, beq_iff_eq, Char.isAlphanum, Bool.or_eq_true,
    Char.isAlpha, Bool.or_eq_true, Text.isUpper_iff, Text.isLower_iff, Text.isDigit_iff,
    hunderscore, or_assoc, or_assoc]

lemma toList_upper {name : String} (h : IsPlain name) :
    (Text.upper name).toList = name.toList.map Char.toUpper := by
  rw [IsPlain, List.all_eq_true] at h
  rw [Text.upper, String.toList_ofList, ← List.flatMap_singleton' (name.toList.map _),
    List.flatMap_map]
  refine List.flatMap_congr fun c hc => ?_
  rw [Text.upperChar, if_pos]
  have hplain := isPlainChar_iff.mp (h c hc)
  omega

lemma isPlainChar_toUpper {c : Char} (h : isPlainChar c = true) : isPlainChar c.toUpper = true := by
  by_cases hlower : c.isLower = true
  · have halpha : c.toUpper.isAlpha = true := by
      rw [Char.isAlpha_toUpper_eq_isAlpha, Char.isAlpha, hlower, Bool.or_true]
    simp [isPlainChar, isWordChar, Char.isAlphanum, halpha]
  · rwa [Char.toUpper_eq_of_not_isLower hlower]

lemma IsPlain.upper {name : String} (h : IsPlain name) : IsPlain (Text.upper name) := by
  rw [IsPlain, toList_upper h, List.all_map]
  exact List.all_eq_true.mpr fun c hc => isPlainChar_toUpper (List.all_eq_true.mp h c hc)

namespace IsSmall

lemma isPlain {name : String} (h : IsSmall name) : IsPlain name :=
  List.all_eq_true.mpr fun c hc => (h c hc).1

/-- Small letters in capitals, written small again. -/
lemma map_toLower_upper {name : String} (h : IsSmall name) :
    (Text.upper name).toList.map Char.toLower = name.toList := by
  rw [toList_upper h.isPlain, List.map_map]
  refine (List.map_congr_left fun c hc => ?_).trans (List.map_id _)
  exact (Char.toLower_toUpper_eq_toLower c).trans (Char.toLower_eq_of_not_isUpper (h c hc).2)

lemma upper_inj {name other : String} (h : IsSmall name) (h' : IsSmall other)
    (heq : Text.upper name = Text.upper other) : name = other := by
  rw [← String.toList_inj, ← h.map_toLower_upper, heq, h'.map_toLower_upper]

end IsSmall

namespace Allocator

lemma nodup_allocateAll (a : Allocator) (requests : List (String × String)) :
    (a.allocateAll requests).1.Nodup := by
  have hdisjoint := (a.hands_allocateAll requests).disjoint
  rw [List.pairwise_map] at hdisjoint
  refine hdisjoint.imp fun hpair heq => ?_
  exact hpair List.mem_cons_self (heq ▸ List.mem_cons_self)

/-- Names that are handed out stay apart in capitals. -/
lemma nodup_upper_allocateAll (a : Allocator) (requests : List (String × String)) :
    ((a.allocateAll requests).1.map Text.upper).Nodup := by
  have hsmall : ∀ name ∈ (a.allocateAll requests).1, IsSmall name :=
    forall_mem_allocateAll (fun request _ b => IsSmall.choose b request.1 request.2) a
  refine List.Nodup.map_on (fun name hname other hother => ?_) (a.nodup_allocateAll requests)
  exact (hsmall name hname).upper_inj (hsmall other hother)

end Allocator

end Cartridge.Symbol
