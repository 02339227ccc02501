import Mathlib
import Cartridge.Text.Lower

/-!
# Letters

The ranges of ASCII letters and digits.  Lowering leaves no capital
(`not_isUpper_of_mem_lowerChar`).  A capital takes as many bytes as its small letter
(`utf8Size_toLower`).
-/

namespace Cartridge.Text

/-! ## Letters -/

lemma isUpper_iff {c : Char} : c.isUpper = true ↔ 65 ≤ c.toNat ∧ c.toNat ≤ 90 := by
  simp only [Char.isUpper, decide_eq_true_eq, ge_iff_le, UInt32.le_iff_toNat_le]
  rfl

lemma isLower_iff {c : Char} : c.isLower = true ↔ 97 ≤ c.toNat ∧ c.toNat ≤ 122 := by
  simp only [Char.isLower, Bool.and_eq_true, decide_eq_true_eq, ge_iff_le, UInt32.le_iff_toNat_le]
  rfl

lemma isDigit_iff {c : Char} : c.isDigit = true ↔ 48 ≤ c.toNat ∧ c.toNat ≤ 57 := by
  simp only [Char.isDigit, Bool.and_eq_true, decide_eq_true_eq, ge_iff_le, UInt32.le_iff_toNat_le]
  rfl

/-! ## Lowering -/

lemma not_isUpper_ofNat {n : Nat} (h : 90 < n) : ¬(Char.ofNat n).isUpper = true := by
  rw [isUpper_iff, Char.ofNat]
  split
  · show ¬(65 ≤ n ∧ n ≤ 90)
    omega
  · decide

/-- No run of the table ends up among the capitals. -/
lemma lt_of_mem_runs : ∀ run ∈ lowerTable.runs.toList, 90 < (run.first : Int) + run.offset := by
  decide +kernel

lemma lt_of_mem_expansions :
    ∀ entry ∈ lowerTable.expansions.toList, ∀ n ∈ entry.2, 90 < n := by
  decide +kernel

/-- Lowering leaves no capital. -/
lemma not_isUpper_of_mem_lowerChar {c d : Char} (h : d ∈ lowerChar c) : ¬d.isUpper = true := by
  rw [lowerChar] at h
  split_ifs at h with hascii
  · rw [List.mem_singleton] at h
    rw [h, Char.isUpper_toLower_eq_false]
    exact Bool.false_ne_true
  · unfold CaseTable.apply at h
    split at h
    · rename_i key first rest hfound
      have hmem := Array.mem_toList_iff.mpr (Array.mem_of_find?_eq_some hfound)
      rw [← List.map_cons, List.mem_map] at h
      obtain ⟨n, hn, rfl⟩ := h
      exact not_isUpper_ofNat (lt_of_mem_expansions _ hmem n hn)
    · split at h
      · rename_i run hfound
        have hmem := Array.mem_toList_iff.mpr (Array.mem_of_find?_eq_some hfound)
        have hrun := lt_of_mem_runs run hmem
        have hin := Array.find?_some hfound
        simp only [CaseRun.contains, Bool.and_eq_true, decide_eq_true_eq] at hin
        rw [List.mem_singleton] at h
        rw [h]
        refine not_isUpper_ofNat ?_
        have hfirst := hin.1.1
        rw [Int.ofNat_eq_natCast]
        omega
      · rw [List.mem_singleton] at h
        rw [h, isUpper_iff]
        omega

/-! ## Bytes -/

lemma utf8Size_toLower (c : Char) : c.toLower.utf8Size = c.utf8Size := by
  have hone : ∀ d : Char, d.toNat ≤ 122 → d.utf8Size = 1 := fun d hd =>
    Char.utf8Size_eq_one_iff.mpr (UInt32.le_iff_toNat_le.mpr (hd.trans (by decide)))
  by_cases hupper : c.isUpper = true
  · have hlower : c.toLower.isLower = true := by
      rw [Char.isLower_toLower_eq_isAlpha, Char.isAlpha, hupper, Bool.true_or]
    rw [isUpper_iff] at hupper
    rw [isLower_iff] at hlower
    rw [hone _ hlower.2, hone _ (by omega)]
  · rw [Char.toLower_eq_of_not_isUpper hupper]

lemma utf8Len_map_toLower (cs : List Char) :
    String.utf8Len (cs.map Char.toLower) = String.utf8Len cs := by
  induction cs with
  | nil => rfl
  | cons c rest ih =>
    rw [List.map_cons, String.utf8Len_cons, String.utf8Len_cons, ih, utf8Size_toLower]

end Cartridge.Text
