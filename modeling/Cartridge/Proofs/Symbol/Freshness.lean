import Mathlib.Data.List.Nodup
import Mathlib.Data.List.Perm.Subperm
import Mathlib.Tactic.Choose
import Mathlib.Tactic.Common
import Mathlib.Tactic.Push
import Cartridge.Symbol.Allocator

/-!
# Names that are handed out are new

Both searches of an allocator try as many numbers as there are taken names, and one more.  A taken
name blocks at most one number: the number can be read off the name, because digits end where the
name ends or an underscore follows.  So by counting some number is free (`exists_free_number`),
and the searches stop where a search without a bound would stop (`EndsAt`).

The results are stated through `isUsed`: what is taken after a request is what was taken before
and the names of the request, and none of these was taken before.
-/

namespace Cartridge.Symbol

/-! ## Taken names -/

namespace Allocator

variable {a : Allocator} {other name : String} {m n first : Nat}

lemma isUsed_iff : a.isUsed name = true ↔ name ∈ a.used.toList := by
  rw [isUsed, Std.TreeSet.mem_toList, Std.TreeSet.mem_iff_contains]

lemma foldl_insert_contains (names : List String) (used : Std.TreeSet String) (name : String) :
    (names.foldl (·.insert ·) used).contains name = true ↔
      name ∈ names ∨ used.contains name = true := by
  induction names generalizing used with
  | nil => simp
  | cons first rest ih =>
    rw [List.foldl_cons, ih, Std.TreeSet.contains_insert]
    simp only [Bool.or_eq_true, List.mem_cons, Std.LawfulEqCmp.compare_eq_iff_eq, beq_iff_eq]
    constructor
    · rintro (h | rfl | h)
      · exact .inl (.inr h)
      · exact .inl (.inl rfl)
      · exact .inr h
    · rintro ((rfl | h) | h)
      · exact .inr (.inl rfl)
      · exact .inl h
      · exact .inr (.inr h)

lemma isUsed_reserve :
    (a.reserve name).isUsed other = true ↔ other ∈ family name ∨ a.isUsed other = true :=
  foldl_insert_contains (family name) a.used other

lemma isFree_iff :
    a.isFree name = true ↔ ∀ other ∈ family name, ¬a.isUsed other = true := by
  simp [isFree]

/-! ## Numbers in names -/

lemma eq_of_toDigits_eq (h : Nat.toDigits 10 m = Nat.toDigits 10 n) : m = n := by
  rw [← Nat.ofDigitChars_ten_toDigits (n := m), h, Nat.ofDigitChars_ten_toDigits]

/-- Digits that end where the text ends or where an underscore follows are determined by the
text. -/
lemma digits_append_inj {s t : List Char} (hs : s.head? ∈ [none, some '_'])
    (ht : t.head? ∈ [none, some '_']) (h : Nat.toDigits 10 m ++ s = Nat.toDigits 10 n ++ t) :
    m = n := by
  have hdigits : ∀ (k : Nat) (u : List Char), u.head? ∈ [none, some '_'] →
      (Nat.toDigits 10 k ++ u).takeWhile Char.isDigit = Nat.toDigits 10 k := by
    intro k u hu
    rw [List.takeWhile_append_of_pos
      fun c hc => Nat.isDigit_of_mem_toDigits (by decide) (by decide) hc]
    cases u with
    | nil => simp
    | cons c u =>
      obtain rfl : c = '_' := by simpa using hu
      rw [List.takeWhile_cons_of_neg (by decide), List.append_nil]
  apply eq_of_toDigits_eq
  rw [← hdigits m s hs, h, hdigits n t ht]

/-- A member of a family is the name itself or goes on with an underscore. -/
lemma exists_ending_of_mem_family (h : other ∈ family name) :
    ∃ ending : List Char, other.toList = name.toList ++ ending ∧
      ending.head? ∈ [none, some '_'] := by
  rw [family, List.mem_cons] at h
  rcases h with rfl | h
  · exact ⟨[], by simp, by simp⟩
  · obtain ⟨suffix, -, rfl⟩ := List.mem_map.mp h
    exact ⟨'_' :: suffix.toList, by simp, by simp⟩

/-- Families of different alternatives have no name in common. -/
lemma numbered_inj_of_family {base : String} (hm : other ∈ family (numbered base m))
    (hn : other ∈ family (numbered base n)) : m = n := by
  obtain ⟨s, hs, hs'⟩ := exists_ending_of_mem_family hm
  obtain ⟨t, ht, ht'⟩ := exists_ending_of_mem_family hn
  rw [hs] at ht
  simp only [numbered, String.toList_append, String.toList_ofList, List.append_assoc] at ht
  exact digits_append_inj hs' ht' (List.append_cancel_left (List.append_cancel_left ht))

lemma sharedName_inj (h : sharedName m = sharedName n) : m = n := by
  have hchars := congrArg String.toList h
  simp only [sharedName, String.toList_append, String.toList_ofList] at hchars
  exact eq_of_toDigits_eq (List.append_cancel_left hchars)

/-! ## The searches stop -/

lemma exists_free_number (a : Allocator) (blocks : String → Nat → Prop)
    (hblocks : ∀ name m n, blocks name m → blocks name n → m = n) (first : Nat) :
    ∃ i, i < a.used.size + 1 ∧ ∀ name, a.isUsed name = true → ¬blocks name (first + i) := by
  by_contra hall
  push Not at hall
  choose! blocker hused hblocker using hall
  -- the blockers of the first `size + 1` numbers are different taken names
  have hnodup : ((List.range (a.used.size + 1)).map blocker).Nodup := by
    refine List.Nodup.map_on ?_ List.nodup_range
    intro i hi j hj hij
    rw [List.mem_range] at hi hj
    have hi' := hblocker i hi
    rw [hij] at hi'
    have := hblocks _ _ _ hi' (hblocker j hj)
    omega
  have hsubset : (List.range (a.used.size + 1)).map blocker ⊆ a.used.toList := by
    intro name hname
    obtain ⟨i, hi, rfl⟩ := List.mem_map.mp hname
    exact isUsed_iff.mp (hused i (List.mem_range.mp hi))
  have hlength := (List.subperm_of_subset hnodup hsubset).length_le
  rw [List.length_map, List.length_range, Std.TreeSet.length_toList] at hlength
  omega

/-- A search that counts up from its first number and stops at the first one that is found ends
at its second number. -/
inductive EndsAt (found : Nat → Prop) : Nat → Nat → Prop
  | here {n : Nat} (h : found n) : EndsAt found n n
  | next {n last : Nat} (h : ¬found n) (hrest : EndsAt found (n + 1) last) : EndsAt found n last

lemma EndsAt.found {found : Nat → Prop} {last : Nat} (h : EndsAt found first last) :
    found last := by
  induction h with
  | here hfound => exact hfound
  | next _ _ ih => exact ih

lemma endsAt_firstFree {base : String} {tries : Nat}
    (h : ∃ i, i < tries ∧ a.isFree (numbered base (first + i)) = true) :
    ∃ n, EndsAt (fun n => a.isFree (numbered base n) = true) first n ∧
      a.firstFree base tries first = numbered base n := by
  induction tries generalizing first with
  | zero =>
    obtain ⟨i, hi, -⟩ := h
    omega
  | succ tries ih =>
    rw [firstFree]
    split_ifs with hfree
    · exact ⟨first, .here hfree, rfl⟩
    · obtain ⟨i, hi, hfree'⟩ := h
      cases i with
      | zero => exact absurd hfree' hfree
      | succ i =>
        have hrest : ∃ i, i < tries ∧ a.isFree (numbered base (first + 1 + i)) = true :=
          ⟨i, by omega, by rwa [Nat.add_assoc, Nat.add_comm 1 i]⟩
        obtain ⟨n, hends, heq⟩ := ih hrest
        exact ⟨n, .next hfree hends, heq⟩

lemma endsAt_firstShared {tries : Nat}
    (h : ∃ i, i < tries ∧ ¬a.isUsed (sharedName (first + i)) = true) :
    EndsAt (fun n => ¬a.isUsed (sharedName n) = true) first (a.firstShared tries first) := by
  induction tries generalizing first with
  | zero =>
    obtain ⟨i, hi, -⟩ := h
    omega
  | succ tries ih =>
    rw [firstShared]
    split_ifs with hused
    · obtain ⟨i, hi, hfree⟩ := h
      cases i with
      | zero => exact absurd hused hfree
      | succ i =>
        refine .next (not_not_intro hused) (ih ⟨i, by omega, ?_⟩)
        rwa [Nat.add_assoc, Nat.add_comm 1 i]
    · exact .here hused

/-- The name handed out is the one asked for where that is free, and otherwise the alternative at
which a search without a bound ends. -/
lemma choose_eq (a : Allocator) (preferred fallback : String) :
    let base := baseName preferred fallback
    a.isFree base = true ∧ a.choose preferred fallback = base ∨
      ¬a.isFree base = true ∧ ∃ n, EndsAt (fun n => a.isFree (numbered base n) = true) 1 n ∧
        a.choose preferred fallback = numbered base n := by
  intro base
  by_cases hfree : a.isFree base = true
  · exact .inl ⟨hfree, if_pos hfree⟩
  · refine .inr ⟨hfree, ?_⟩
    obtain ⟨i, hi, hnone⟩ := exists_free_number a (fun name n => name ∈ family (numbered base n))
      (fun _ _ _ => numbered_inj_of_family) 1
    have hchoose : a.choose preferred fallback = a.firstFree base (a.used.size + 1) 1 :=
      if_neg hfree
    rw [hchoose]
    exact endsAt_firstFree
      ⟨i, hi, isFree_iff.mpr fun other hother hused => hnone other hused hother⟩

/-- A name that is handed out was free, together with its companions. -/
lemma isFree_choose (a : Allocator) (preferred fallback : String) :
    a.isFree (a.choose preferred fallback) = true := by
  rcases a.choose_eq preferred fallback with ⟨hfree, heq⟩ | ⟨-, n, hends, heq⟩
  · rwa [heq]
  · rw [heq]
    exact hends.found

/-- The number of the next shared name is the one at which a search without a bound ends. -/
lemma endsAt_allocateShared (a : Allocator) :
    ∃ n, EndsAt (fun n => ¬a.isUsed (sharedName n) = true) a.nextShared n ∧
      a.allocateShared.1 = sharedName n := by
  obtain ⟨i, hi, hnone⟩ := exists_free_number a (fun name n => name = sharedName n)
    (fun _ _ _ hm hn => sharedName_inj (hm.symm.trans hn)) a.nextShared
  exact ⟨_, endsAt_firstShared ⟨i, hi, fun hused => hnone _ hused rfl⟩, rfl⟩

/-! ## Requests -/

lemma not_isUsed_allocate (a : Allocator) (preferred fallback : String) :
    ¬a.isUsed (a.allocate preferred fallback).1 = true :=
  isFree_iff.mp (isFree_choose a preferred fallback) _ List.mem_cons_self

lemma isUsed_allocate {preferred fallback : String} :
    (a.allocate preferred fallback).2.isUsed other = true ↔
      other ∈ family (a.allocate preferred fallback).1 ∨ a.isUsed other = true :=
  isUsed_reserve

/-- A shared name is new. -/
lemma not_isUsed_allocateShared (a : Allocator) : ¬a.isUsed a.allocateShared.1 = true := by
  obtain ⟨n, hends, heq⟩ := a.endsAt_allocateShared
  rw [heq]
  exact hends.found

lemma isUsed_allocateShared :
    a.allocateShared.2.isUsed other = true ↔
      other = a.allocateShared.1 ∨ a.isUsed other = true := by
  show (a.used.insert _).contains other = true ↔ _
  rw [Std.TreeSet.contains_insert]
  simp only [Bool.or_eq_true, beq_iff_eq, Std.LawfulEqCmp.compare_eq_iff_eq]
  exact or_congr eq_comm Iff.rfl

end Allocator

end Cartridge.Symbol
