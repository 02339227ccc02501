import Cartridge.Proofs.Json.Order
import Cartridge.Proofs.Symbol.Families
import Cartridge.Source.Globals

/-!
# The names of variables

The variables of the whole game are listed with a name each, and the file of globals defines the
names in order.  The table has an entry for exactly the variables it was made from
(`get?_variableAliases_eq_none`), and each of its names is tagged `VAR`, so none is a local name
(`tagged_variableAliases`).
-/

namespace Cartridge.Symbol.Allocator

/-- A text is a tag, alone or followed by an underscore and more. -/
def Tagged (tag text : String) : Prop :=
  text = tag ∨ (tag ++ "_").toList <+: text.toList

variable {tag : String}

lemma Tagged.append {text : String} (h : Tagged tag text) (rest : String) :
    Tagged tag (text ++ "_" ++ rest) := by
  refine .inr ?_
  rcases h with rfl | hstart
  · rw [@String.toList_append (text ++ "_") rest]
    exact List.prefix_append _ _
  · rw [String.append_assoc, @String.toList_append text]
    exact hstart.trans (List.prefix_append _ _)

lemma Tagged.firstFree {base : String} (h : Tagged tag base) (a : Allocator) (tries n : Nat) :
    Tagged tag (a.firstFree base tries n) := by
  induction tries generalizing n with
  | zero => exact h.append _
  | succ tries ih =>
    rw [Allocator.firstFree]
    split_ifs
    · exact h.append _
    · exact ih (n + 1)

/-- A name that is handed out keeps the tag of the one asked for. -/
lemma Tagged.choose {preferred fallback : String} (h : Tagged tag (baseName preferred fallback))
    (a : Allocator) : Tagged tag (a.choose preferred fallback) := by
  rw [Allocator.choose]
  split_ifs
  · exact h
  · exact h.firstFree a _ _

end Cartridge.Symbol.Allocator

namespace Cartridge.Source

open Cartridge.Json
open Cartridge.Project
open Cartridge.Script (decimal)
open Cartridge.Symbol (identifier)
open Cartridge.Symbol.Allocator

/-! ## The table -/

variable {α : Type} {name id : String} {project : Project}

lemma keys_setEntry {key : String} {value : α} {table : List (String × α)} :
    key ∈ (setEntry name value table).map Prod.fst ↔
      key = name ∨ key ∈ table.map Prod.fst := by
  induction table with
  | nil => simp [setEntry]
  | cons entry rest ih =>
    rw [setEntry]
    split_ifs with hname
    · simp [hname]
    · simp only [List.map_cons, List.mem_cons, ih]
      exact or_left_comm

lemma mem_setEntry {value : α} {table : List (String × α)} {entry : String × α}
    (h : entry ∈ setEntry name value table) :
    entry = (name, value) ∨ entry ∈ table := by
  induction table with
  | nil => simpa [setEntry] using h
  | cons other rest ih =>
    rw [setEntry] at h
    split_ifs at h with hname
    · exact (List.mem_cons.mp h).imp_right (List.mem_cons_of_mem _)
    · rcases List.mem_cons.mp h with rfl | hrest
      · exact .inr List.mem_cons_self
      · exact (ih hrest).imp_right (List.mem_cons_of_mem _)

lemma keys_foldl_setEntry {key : String} (entries table : List (String × α)) :
    key ∈ (entries.foldl (fun t entry => setEntry entry.1 entry.2 t) table).map Prod.fst ↔
      key ∈ entries.map Prod.fst ∨ key ∈ table.map Prod.fst := by
  induction entries generalizing table with
  | nil => simp
  | cons entry rest ih =>
    rw [List.foldl_cons, ih, keys_setEntry, List.map_cons, List.mem_cons]
    exact or_left_comm.trans or_assoc.symm

lemma mem_foldl_setEntry {entry : String × α} (entries table : List (String × α))
    (h : entry ∈ entries.foldl (fun t entry => setEntry entry.1 entry.2 t) table) :
    entry ∈ entries ∨ entry ∈ table := by
  induction entries generalizing table with
  | nil => exact .inr h
  | cons first rest ih =>
    rcases ih _ h with hrest | htable
    · exact .inl (List.mem_cons_of_mem _ hrest)
    · refine (mem_setEntry htable).imp_left ?_
      rintro rfl
      exact List.mem_cons_self

/-- The table has an entry for exactly the variables that are used. -/
lemma get?_variableAliases_eq_none {used : List String} :
    Fields.get? (variableAliases project used) id = none ↔ id ∉ used := by
  have hlength : used.length = ((Symbol.Allocator.empty.allocateAll
      (used.map (aliasRequest project))).1.map Text.upper).length := by
    rw [List.length_map, length_allocateAll, List.length_map]
  rw [Fields.get?_eq_none_iff, variableAliases, keys_foldl_setEntry,
    List.map_fst_zip (Nat.le_of_eq hlength)]
  simp

/-! ## The names -/

lemma joinWords_true (cs : List Char) :
    Symbol.joinWords true cs = [] ∨ ['_'] <+: Symbol.joinWords true cs := by
  induction cs with
  | nil => exact .inl rfl
  | cons c rest ih =>
    rw [Symbol.joinWords, if_pos rfl]
    split_ifs
    · exact .inr (List.prefix_append ['_'] _)
    · exact ih

/-- A word in front of an underscore stays in front. -/
lemma guardDigit_words_var (cs : List Char) :
    Symbol.guardDigit (Symbol.words ('v' :: 'a' :: 'r' :: '_' :: cs)) =
      "var".toList ++ Symbol.joinWords true cs :=
  rfl

lemma toList_identifier_var (rest : String) :
    (identifier ("var_" ++ rest)).toList =
      "var".toList ++ Symbol.joinWords true (rest.toList.flatMap Text.lowerChar) := by
  have hlower : "var_".toList.flatMap Text.lowerChar = ['v', 'a', 'r', '_'] := by decide
  simp only [identifier, Symbol.identifierChars, String.toList_append, List.flatMap_append,
    hlower, List.cons_append, List.nil_append, guardDigit_words_var, String.toList_ofList]

lemma tagged_identifier (rest : String) : Tagged "var" (identifier ("var_" ++ rest)) := by
  rcases joinWords_true (rest.toList.flatMap Text.lowerChar) with hnone | hsome
  · refine .inl (String.toList_injective ?_)
    rw [toList_identifier_var, hnone, List.append_nil]
  · refine .inr ?_
    rw [toList_identifier_var, String.toList_append]
    exact (List.prefix_append_right_inj _).mpr hsome

lemma identifier_var_ne_empty (rest : String) : identifier ("var_" ++ rest) ≠ "" := by
  intro hempty
  have hchars := toList_identifier_var rest
  rw [hempty] at hchars
  exact absurd hchars (by simp)

/-- The name asked for is tagged, also where the variable has no symbol. -/
lemma tagged_baseName (project : Project) (id : String) :
    Tagged "var" (baseName (aliasRequest project id).1 (aliasRequest project id).2) := by
  have hfallback : (aliasRequest project id).2 = "var_" ++ ("variable_" ++ id) := by
    rw [aliasRequest, ← String.append_assoc]
    rfl
  rw [baseName, hfallback]
  split_ifs with hpreferred hempty
  · rw [aliasRequest] at hpreferred ⊢
    dsimp only at hpreferred ⊢
    split_ifs at hpreferred ⊢ with hsymbol
    · exact absurd rfl hpreferred
    · exact tagged_identifier _
  · exact tagged_identifier _
  · exact absurd (identifier_var_ne_empty _) hempty

lemma tagged_upper {text : String} (h : Tagged "var" text) : Tagged "VAR" (Text.upper text) := by
  rcases h with rfl | ⟨rest, hrest⟩
  · exact .inl (by decide)
  · have hupper : ("var" ++ "_").toList.flatMap Text.upperChar = ("VAR" ++ "_").toList := by decide
    refine .inr ⟨rest.flatMap Text.upperChar, ?_⟩
    rw [Text.upper, String.toList_ofList, ← hrest, List.flatMap_append, hupper]

/-- Every name in the table is `VAR`, alone or with an underscore and more behind it. -/
lemma tagged_variableAliases {used : List String} (h : (id, name) ∈ variableAliases project used) :
    Tagged "VAR" name := by
  rcases mem_foldl_setEntry _ _ h with hmem | hmem
  · obtain ⟨allocated, hallocated, rfl⟩ := List.mem_map.mp (List.of_mem_zip hmem).2
    refine tagged_upper (forall_mem_allocateAll (P := Tagged "var") ?_ _ _ hallocated)
    rintro _ hrequest a
    obtain ⟨id', -, rfl⟩ := List.mem_map.mp hrequest
    exact (tagged_baseName project id').choose a
  · exact absurd hmem List.not_mem_nil

/-! ## The file -/

/-- The file of globals for listings gives a variable a name. -/
def DefinesVariable (project : Project) (aliases : List (String × String)) (id name : String) :
    Prop :=
  ∃ i, aliases[i]? = some (id, name) ∧ ∃ file ∈ globalsFiles project aliases,
    file.name = "game_globals.i" ∧ line (name ++ " = " ++ decimal i) ∈ file.lines

/-- The file defines the names of the table. -/
lemma definesVariable_iff {aliases : List (String × String)} :
    DefinesVariable project aliases id name ↔ (id, name) ∈ aliases := by
  constructor
  · rintro ⟨i, hentry, -⟩
    exact List.mem_of_getElem? hentry
  · intro hmem
    obtain ⟨i, hentry⟩ := List.getElem?_of_mem hmem
    refine ⟨i, hentry, _, List.mem_cons_self, rfl, ?_⟩
    have hdefinition : (name, decimal i) ∈ globalDefinitions project aliases := by
      refine List.mem_append_left _ (List.mem_map.mpr ⟨((id, name), i), ?_, rfl⟩)
      exact List.mem_zipIdx_iff_getElem?.mpr hentry
    exact List.mem_map.mpr ⟨_, List.mem_append_left _ hdefinition, rfl⟩

end Cartridge.Source
