import Cartridge.Proofs.Symbol.NormalForm

/-!
# Families of names never clash

An allocator is asked for names of objects and for names of shared scripts, in any order.  With a
name it hands out a family: the name of an object takes its companions along, the name of a shared
script stands alone.  `Hands` says what a stretch of requests does to an allocator: the families are
new, no two of them have a name in common, their names are plain, and afterwards exactly their names
are taken besides those that were taken before.  One request does this (`hands_answer`), and
stretches can be put one behind the other (`Hands.append`), so every sequence of requests does it
too (`hands_serve`).

The searches are bounded by the number of taken names; `Demand.Found` says with unbounded searches
which name answers a request, and the bounded ones find it (`Demand.found_answer`).
-/

namespace Cartridge.Symbol

/-! ## Requests -/

/-- What an allocator is asked for. -/
inductive Demand
  /-- The name of an object. -/
  | object (preferred fallback : String)
  /-- The name of a shared script. -/
  | shared

namespace Demand

/-- The name that is handed out, and the allocator afterwards. -/
def answer (a : Allocator) : Demand → String × Allocator
  | object preferred fallback => a.allocate preferred fallback
  | shared => a.allocateShared

/-- The names that are taken together with the name that is handed out. -/
def taken (name : String) : Demand → List String
  | object _ _ => family name
  | shared => [name]

end Demand

/-- The families handed out for a sequence of requests, in order, and the allocator afterwards. -/
def Allocator.serve (a : Allocator) : List Demand → List (List String) × Allocator
  | [] => ([], a)
  | demand :: rest =>
    let given := demand.answer a
    let others := given.2.serve rest
    (demand.taken given.1 :: others.1, others.2)

/-! ## The name that answers a request -/

namespace Demand

/-- The name to hand out, said with searches that have no bound: the name asked for where it is
free, else its first free alternative; for a shared script the first name whose number was not
given away and that is not taken. -/
def Found (a : Allocator) : Demand → String → Prop
  | object preferred fallback, name =>
    let base := Allocator.baseName preferred fallback
    a.isFree base = true ∧ name = base ∨
      ¬a.isFree base = true ∧
        ∃ n, Allocator.EndsAt (fun n => a.isFree (Allocator.numbered base n) = true) 1 n ∧
          name = Allocator.numbered base n
  | shared, name =>
    ∃ n, Allocator.EndsAt (fun n => ¬a.isUsed (Allocator.sharedName n) = true) a.nextShared n ∧
      name = Allocator.sharedName n

lemma found_answer (a : Allocator) (demand : Demand) : demand.Found a (demand.answer a).1 := by
  cases demand with
  | object preferred fallback => exact a.choose_eq preferred fallback
  | shared => exact a.endsAt_allocateShared

end Demand

/-! ## The characters of names -/

/-- The character may stand in a name. -/
def isPlainChar (c : Char) : Bool :=
  isWordChar c || c == '_'

/-- A name of letters, digits and underscores. -/
def IsPlain (name : String) : Prop :=
  name.toList.all isPlainChar = true

namespace IsPlain

lemma append {first second : String} (h : IsPlain first) (h' : IsPlain second) :
    IsPlain (first ++ second) := by
  rw [IsPlain, String.toList_append, List.all_append, h, h', Bool.and_self]

lemma digits (n : Nat) : IsPlain (String.ofList (Nat.toDigits 10 n)) := by
  rw [IsPlain, String.toList_ofList, List.all_eq_true]
  intro c hc
  have hdigit : c.isDigit = true := Nat.isDigit_of_mem_toDigits (by decide) (by decide) hc
  simp [isPlainChar, isWordChar, Char.isAlphanum, hdigit]

/-- The normal form has no other characters. -/
lemma of_isNormal {name : String} (h : IsNormal name) : IsPlain name := by
  rw [IsPlain, List.all_eq_true]
  intro c hc
  rcases h.runs.isRunChar_or_eq c hc with hrun | rfl
  · rw [isPlainChar, isWordChar_of_isRunChar hrun, Bool.true_or]
  · rfl

lemma numbered {base : String} (h : IsPlain base) (n : Nat) :
    IsPlain (Allocator.numbered base n) :=
  (h.append (by decide : "_".toList.all isPlainChar = true)).append (digits n)

lemma sharedName (n : Nat) : IsPlain (Allocator.sharedName n) :=
  append (by decide : "script_custom_".toList.all isPlainChar = true) (digits n)

/-- The names of companions are plain where the name itself is. -/
lemma of_mem_family {name other : String} (h : IsPlain name) (hother : other ∈ family name) :
    IsPlain other := by
  rcases List.mem_cons.mp hother with rfl | hcompanion
  · exact h
  · obtain ⟨suffix, hsuffix, rfl⟩ := List.mem_map.mp hcompanion
    have hsuffixes : ∀ suffix ∈ companionSuffixes, suffix.toList.all isPlainChar = true := by decide
    exact (h.append (by decide : "_".toList.all isPlainChar = true)).append
      (hsuffixes suffix hsuffix)

end IsPlain

lemma Demand.Found.isPlain {a : Allocator} {demand : Demand} {name : String}
    (h : demand.Found a name) : IsPlain name := by
  cases demand with
  | object preferred fallback =>
    have hbase := IsPlain.of_isNormal (.baseName preferred fallback)
    rcases h with ⟨-, rfl⟩ | ⟨-, n, -, rfl⟩
    · exact hbase
    · exact hbase.numbered n
  | shared =>
    obtain ⟨n, -, rfl⟩ := h
    exact .sharedName n

/-! ## What requests do to an allocator -/

namespace Allocator

/-- On the way from one allocator to a later one these families are handed out. -/
structure Hands (a : Allocator) (families : List (List String)) (later : Allocator) : Prop where
  /-- No name of a family was taken. -/
  fresh : ∀ family ∈ families, ∀ name ∈ family, ¬a.isUsed name = true
  /-- No name is in two families. -/
  disjoint : families.Pairwise List.Disjoint
  isPlain : ∀ family ∈ families, ∀ name ∈ family, IsPlain name
  /-- The families are taken afterwards, and nothing else is. -/
  isUsed_iff : ∀ name, later.isUsed name = true ↔
    a.isUsed name = true ∨ ∃ family ∈ families, name ∈ family

namespace Hands

lemma nil (a : Allocator) : Hands a [] a where
  fresh := by simp
  disjoint := .nil
  isPlain := by simp
  isUsed_iff := by simp

lemma append {a b c : Allocator} {first second : List (List String)} (hab : Hands a first b)
    (hbc : Hands b second c) : Hands a (first ++ second) c where
  fresh := by
    intro family hfamily name hname hused
    rcases List.mem_append.mp hfamily with hfirst | hsecond
    · exact hab.fresh family hfirst name hname hused
    · exact hbc.fresh family hsecond name hname ((hab.isUsed_iff name).mpr (.inl hused))
  disjoint := by
    refine List.pairwise_append.mpr ⟨hab.disjoint, hbc.disjoint, ?_⟩
    intro earlier hearlier later hlater name hname hname'
    -- the name is taken when the second stretch begins
    have hused : b.isUsed name = true := (hab.isUsed_iff name).mpr (.inr ⟨earlier, hearlier, hname⟩)
    exact hbc.fresh later hlater name hname' hused
  isPlain := List.forall_mem_append.mpr ⟨hab.isPlain, hbc.isPlain⟩
  isUsed_iff := by
    intro name
    rw [hbc.isUsed_iff, hab.isUsed_iff, or_assoc]
    simp only [List.mem_append, or_and_right, exists_or]

/-- The order of the families does not matter. -/
lemma perm {a later : Allocator} {families families' : List (List String)}
    (h : Hands a families later) (hperm : families.Perm families') : Hands a families' later where
  fresh := fun family hfamily => h.fresh family (hperm.mem_iff.mpr hfamily)
  disjoint := hperm.pairwise h.disjoint fun hdisjoint _ hleft hright => hdisjoint hright hleft
  isPlain := fun family hfamily => h.isPlain family (hperm.mem_iff.mpr hfamily)
  isUsed_iff := by
    intro name
    rw [h.isUsed_iff]
    simp only [hperm.mem_iff]

/-- Families without repetitions give a list without repetitions. -/
lemma nodup_flatten {a later : Allocator} {families : List (List String)}
    (h : Hands a families later) (hnodup : ∀ family ∈ families, family.Nodup) :
    families.flatten.Nodup :=
  List.nodup_flatten.mpr ⟨hnodup, h.disjoint⟩

end Hands

lemma hands_allocate (a : Allocator) (preferred fallback : String) :
    Hands a [family (a.allocate preferred fallback).1] (a.allocate preferred fallback).2 where
  fresh := by
    intro names hnames name hname
    obtain rfl := List.mem_singleton.mp hnames
    exact isFree_iff.mp (isFree_choose a preferred fallback) name hname
  disjoint := List.pairwise_singleton _ _
  isPlain := by
    intro names hnames name hname
    obtain rfl := List.mem_singleton.mp hnames
    exact (Demand.found_answer a (.object preferred fallback)).isPlain.of_mem_family hname
  isUsed_iff := by
    intro name
    rw [isUsed_allocate, or_comm]
    simp

lemma hands_allocateShared (a : Allocator) :
    Hands a [[a.allocateShared.1]] a.allocateShared.2 where
  fresh := by
    intro names hnames name hname
    obtain rfl := List.mem_singleton.mp hnames
    obtain rfl := List.mem_singleton.mp hname
    exact not_isUsed_allocateShared a
  disjoint := List.pairwise_singleton _ _
  isPlain := by
    intro names hnames name hname
    obtain rfl := List.mem_singleton.mp hnames
    obtain rfl := List.mem_singleton.mp hname
    exact (Demand.found_answer a .shared).isPlain
  isUsed_iff := by
    intro name
    rw [isUsed_allocateShared, or_comm]
    simp

lemma hands_answer (a : Allocator) (demand : Demand) :
    Hands a [demand.taken (demand.answer a).1] (demand.answer a).2 := by
  cases demand with
  | object preferred fallback => exact a.hands_allocate preferred fallback
  | shared => exact a.hands_allocateShared

lemma hands_serve (a : Allocator) (demands : List Demand) :
    Hands a (a.serve demands).1 (a.serve demands).2 := by
  induction demands generalizing a with
  | nil => exact .nil a
  | cons demand rest ih => exact (a.hands_answer demand).append (ih (demand.answer a).2)

/-! ## Lists of objects -/

/-- What holds of every name that may be handed out for a request holds of the names handed
out. -/
lemma forall_mem_allocateAll {P : String → Prop} {requests : List (String × String)}
    (h : ∀ request ∈ requests, ∀ a : Allocator, P (a.choose request.1 request.2)) (a : Allocator) :
    ∀ name ∈ (a.allocateAll requests).1, P name := by
  induction requests generalizing a with
  | nil => simp [allocateAll]
  | cons request rest ih =>
    rw [allocateAll, List.forall_mem_cons]
    exact ⟨h request List.mem_cons_self a,
      ih (fun r hr => h r (List.mem_cons_of_mem _ hr)) _⟩

lemma length_allocateAll (a : Allocator) (requests : List (String × String)) :
    (a.allocateAll requests).1.length = requests.length := by
  induction requests generalizing a with
  | nil => rfl
  | cons request rest ih => simp [allocateAll, ih]

/-- The names handed out for a list of objects take their families with them. -/
lemma hands_allocateAll (a : Allocator) (requests : List (String × String)) :
    Hands a ((a.allocateAll requests).1.map family) (a.allocateAll requests).2 := by
  induction requests generalizing a with
  | nil => exact .nil a
  | cons request rest ih =>
    obtain ⟨preferred, fallback⟩ := request
    rw [allocateAll]
    exact (a.hands_allocate preferred fallback).append (ih (a.allocate preferred fallback).2)

/-! ## Any requests -/

lemma not_isUsed_empty (name : String) : ¬empty.isUsed name = true := by
  simp [isUsed, empty]

/-- **Names that are handed out never clash.**  Every request ends with the name that a search
without a bound finds, and after any sequence of requests to an allocator that has handed out
nothing yet no two families have a name in common, and exactly their names are taken. -/
theorem serve_families_disjoint :
    (∀ (a : Allocator) (demand : Demand), demand.Found a (demand.answer a).1) ∧
    ∀ demands : List Demand,
      (empty.serve demands).1.Pairwise List.Disjoint ∧
      ∀ name, (empty.serve demands).2.isUsed name = true ↔
        ∃ names ∈ (empty.serve demands).1, name ∈ names := by
  refine ⟨fun a demand => demand.found_answer a, fun demands => ?_⟩
  have hserve := empty.hands_serve demands
  refine ⟨hserve.disjoint, fun name => ?_⟩
  rw [hserve.isUsed_iff]
  exact or_iff_right (not_isUsed_empty name)

end Allocator

end Cartridge.Symbol
