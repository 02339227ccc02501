import Cartridge.Proofs.Source.Aliases
import Cartridge.Proofs.Symbol.Capitals
import Cartridge.Proofs.Symbol.LastWord
import Cartridge.Proofs.Text.Lines

/-!
# The names of the game's globals

The files of globals give a number to each used variable, to each constant and to the number of
variables, once for listings and once for sources.  Both files define the same names, in order
(`assignedNames_listingFile`, `definedNames_headerFile`).

Variables and constants get their names apart from each other.  So no two variables are called
alike, nor two constants, but a constant may be called like a variable or like the number of
variables (`nodup_globalNames_iff`).  It never is unless its symbol asks for it
(`constant_apart_of_constantBase`).
-/

namespace Cartridge.Source

open Cartridge.Project
open Cartridge.Script (decimal)
open Cartridge.Symbol
open Cartridge.Symbol.Allocator
open Cartridge.Text (IsLine)

/-! ## Reading the files -/

/-- The name that a line of the listing file gives a value. -/
def assignedName? (line : String) : Option String :=
  (Text.breakAt? " = ".toList line.toList).map fun parts => String.ofList parts.1

/-- The name that a line of the header defines with a value. -/
def definedName? (line : String) : Option String :=
  ("#define ".toList.isPrefixOf? line.toList).bind fun rest =>
    (Text.breakAt? " ".toList rest).map fun parts => String.ofList parts.1

/-- The names that a listing file gives values. -/
def assignedNames (text : String) : List String :=
  (Text.lines text).filterMap assignedName?

/-- The names that a header defines with values. -/
def definedNames (text : String) : List String :=
  (Text.lines text).filterMap definedName?

/-- The names of the variables, of the constants and of the number of variables. -/
def globalNames (project : Project) (aliases : List (String × String)) : List String :=
  aliases.map (·.2) ++ constantNames project.constants ++ [variableCountName]

/-- The definitions of the files of globals. -/
def definitionsOf (project : Project) (aliases : List (String × String)) :
    List (String × String) :=
  globalDefinitions project aliases ++ [(variableCountName, decimal aliases.length)]

/-- The file of globals for listings. -/
def listingFile (project : Project) (aliases : List (String × String)) : File where
  name := "game_globals.i"
  lines := (definitionsOf project aliases).map fun definition =>
    line (definition.1 ++ " = " ++ definition.2)

/-- The file of globals for sources. -/
def headerFile (project : Project) (aliases : List (String × String)) : File where
  name := "game_globals.h"
  lines := [line "#ifndef GAME_GLOBALS_H", line "#define GAME_GLOBALS_H", blank] ++
    (definitionsOf project aliases).map (fun definition =>
      line ("#define " ++ definition.1 ++ " " ++ definition.2)) ++
    [blank, line "#endif"]

lemma globalsFiles_eq (project : Project) (aliases : List (String × String)) :
    globalsFiles project aliases = [listingFile project aliases, headerFile project aliases] :=
  rfl

lemma globalDefinitions_eq (project : Project) (aliases : List (String × String)) :
    globalDefinitions project aliases =
      (aliases.zipIdx.map fun pair => (pair.1.2, decimal pair.2)) ++
        ((constantNames project.constants).zip project.constants).map fun pair =>
          (pair.1, integerText pair.2.value.toInt) :=
  rfl

lemma length_constantNames (constants : List Constant) :
    (constantNames constants).length = constants.length := by
  rw [constantNames, List.length_map, length_allocateAll, List.length_map]

lemma map_fst_definitionsOf (project : Project) (aliases : List (String × String)) :
    (definitionsOf project aliases).map (·.1) = globalNames project aliases := by
  have haliases : (aliases.zipIdx.map fun pair => (pair.1.2, decimal pair.2)).map (·.1) =
      aliases.map (·.2) := by
    nth_rewrite 2 [← List.zipIdx_map_fst 0 aliases]
    rw [List.map_map, List.map_map]
    rfl
  have hconstants : (((constantNames project.constants).zip project.constants).map fun pair =>
      (pair.1, integerText pair.2.value.toInt)).map (·.1) = constantNames project.constants := by
    rw [List.map_map]
    exact List.map_fst_zip (Nat.le_of_eq (length_constantNames _))
  rw [definitionsOf, globalDefinitions_eq, List.map_append, List.map_append, haliases, hconstants]
  rfl

/-- The text of a line without its end. -/
def lineText (pieces : Line) : String :=
  String.join (pieces.map Piece.render)

lemma lineText_line (text : String) : lineText (line text) = text := by
  show String.join [text] = text
  rw [String.join_cons, String.join_nil, String.append_empty]

lemma renderLines_eq_join (lines : List Line) :
    renderLines lines = String.join ((lines.map lineText).map (· ++ "\n")) := by
  rw [renderLines, List.map_map]
  rfl

/-- The lines of a file are read back as they were written. -/
lemma lines_renderLines {lines : List Line} (h : ∀ pieces ∈ lines, IsLine (lineText pieces)) :
    Text.lines (renderLines lines) = lines.map lineText := by
  rw [renderLines_eq_join, Text.lines_join]
  intro text htext
  obtain ⟨pieces, hpieces, rfl⟩ := List.mem_map.mp htext
  exact h pieces hpieces

/-! ## The parts of a definition -/

/-- The text of a number, which may have a minus sign. -/
def IsNumeral (text : String) : Prop :=
  ∀ c ∈ text.toList, c = '-' ∨ c.isDigit = true

lemma isNumeral_decimal (n : Nat) : IsNumeral (decimal n) := by
  rw [IsNumeral, decimal, String.toList_ofList]
  exact fun c hc => .inr (Nat.isDigit_of_mem_toDigits (by decide) (by decide) hc)

lemma isNumeral_integerText (n : Int) : IsNumeral (integerText n) := by
  rw [integerText]
  split_ifs
  · rw [IsNumeral, String.toList_append]
    refine List.forall_mem_append.mpr ⟨fun c hc => .inl ?_, isNumeral_decimal _⟩
    exact List.mem_singleton.mp hc
  · exact isNumeral_decimal _

lemma IsNumeral.isLine {text : String} (h : IsNumeral text) : IsLine text := by
  constructor
  · exact fun hc => absurd (h _ hc) (by decide)
  · exact fun hc => absurd (h _ hc) (by decide)

variable {name : String}

/-- What does not belong in a name is not in it. -/
lemma not_mem_of_isPlain (h : IsPlain name) {c : Char} (hc : isPlainChar c = false) :
    c ∉ name.toList := by
  intro hmem
  rw [List.all_eq_true.mp h c hmem] at hc
  cases hc

lemma isLine_of_isPlain (h : IsPlain name) : IsLine name :=
  ⟨not_mem_of_isPlain h (by decide), not_mem_of_isPlain h (by decide)⟩

/-- A name and a number. -/
structure IsDefinition (definition : String × String) : Prop where
  name : IsPlain definition.1
  value : IsNumeral definition.2

lemma isPlain_upper_of_mem_allocateAll {requests : List (String × String)}
    (h : name ∈ (Allocator.empty.allocateAll requests).1.map Text.upper) : IsPlain name := by
  obtain ⟨allocated, hallocated, rfl⟩ := List.mem_map.mp h
  have hsmall : ∀ name ∈ (Allocator.empty.allocateAll requests).1, IsSmall name :=
    forall_mem_allocateAll (fun request _ a => .choose a request.1 request.2) _
  exact (hsmall allocated hallocated).isPlain.upper

lemma isPlain_variableAliases {project : Project} {used : List String} {entry : String × String}
    (h : entry ∈ variableAliases project used) : IsPlain entry.2 := by
  rcases mem_foldl_setEntry _ _ h with hmem | hmem
  · exact isPlain_upper_of_mem_allocateAll (List.of_mem_zip hmem).2
  · exact absurd hmem List.not_mem_nil

/-- The files hold names with numbers and nothing else. -/
lemma isDefinition_of_mem {project : Project} {used : List String} {definition : String × String}
    (h : definition ∈ definitionsOf project (variableAliases project used)) :
    IsDefinition definition := by
  rw [definitionsOf, globalDefinitions_eq, List.mem_append, List.mem_append] at h
  rcases h with (halias | hconstant) | hcount
  · obtain ⟨⟨entry, i⟩, hentry, rfl⟩ := List.mem_map.mp halias
    exact ⟨isPlain_variableAliases (List.mem_of_getElem? (List.mem_zipIdx_iff_getElem?.mp hentry)),
      isNumeral_decimal i⟩
  · obtain ⟨⟨name, c⟩, hpair, rfl⟩ := List.mem_map.mp hconstant
    exact ⟨isPlain_upper_of_mem_allocateAll (List.of_mem_zip hpair).1, isNumeral_integerText _⟩
  · rw [List.mem_singleton.mp hcount]
    exact ⟨(by decide : variableCountName.toList.all isPlainChar = true), isNumeral_decimal _⟩

/-! ## The names that are read -/

section

variable {definition : String × String}

lemma IsDefinition.assignedName? (h : IsDefinition definition) :
    assignedName? (definition.1 ++ " = " ++ definition.2) = some definition.1 := by
  have hmark : " = ".toList = [' ', '=', ' '] := rfl
  rw [Source.assignedName?, String.toList_append, String.toList_append, List.append_assoc, hmark,
    Text.breakAt?_append (not_mem_of_isPlain h.name (by decide)), Option.map_some,
    String.ofList_toList]

lemma IsDefinition.definedName? (h : IsDefinition definition) :
    definedName? ("#define " ++ definition.1 ++ " " ++ definition.2) = some definition.1 := by
  have hstart : "#define ".toList.isPrefixOf?
      ("#define " ++ definition.1 ++ " " ++ definition.2).toList =
        some (definition.1.toList ++ ([' '] ++ definition.2.toList)) := by
    rw [List.isPrefixOf?_eq_some_iff_append_eq]
    simp only [String.toList_append, List.append_assoc]
    rfl
  have hmark : " ".toList = [' '] := rfl
  rw [Source.definedName?, hstart, Option.bind_some, hmark,
    Text.breakAt?_append (not_mem_of_isPlain h.name (by decide)), Option.map_some,
    String.ofList_toList]

end

/-- The lines of a definition in both files. -/
lemma IsDefinition.isLine {definition : String × String} (h : IsDefinition definition) :
    IsLine (definition.1 ++ " = " ++ definition.2) ∧
      IsLine ("#define " ++ definition.1 ++ " " ++ definition.2) := by
  have hliterals : IsLine " = " ∧ IsLine "#define " ∧ IsLine " " :=
    ⟨⟨by decide, by decide⟩, ⟨by decide, by decide⟩, ⟨by decide, by decide⟩⟩
  have hname := isLine_of_isPlain h.name
  have hvalue := h.value.isLine
  exact ⟨(hname.append hliterals.1).append hvalue,
    ((hliterals.2.1.append hname).append hliterals.2.2).append hvalue⟩

section

variable {project : Project} {used : List String}

lemma lines_listingFile :
    Text.lines (listingFile project (variableAliases project used)).text =
      (definitionsOf project (variableAliases project used)).map
        fun definition => definition.1 ++ " = " ++ definition.2 := by
  rw [File.text, lines_renderLines, listingFile, List.map_map]
  · exact List.map_congr_left fun definition _ => lineText_line _
  · intro pieces hpieces
    obtain ⟨definition, hdefinition, rfl⟩ := List.mem_map.mp hpieces
    rw [lineText_line]
    exact (isDefinition_of_mem hdefinition).isLine.1

lemma assignedNames_listingFile :
    assignedNames (listingFile project (variableAliases project used)).text =
      globalNames project (variableAliases project used) := by
  rw [assignedNames, lines_listingFile, List.filterMap_map, ← map_fst_definitionsOf,
    ← List.filterMap_eq_map]
  exact List.filterMap_congr fun definition hdefinition =>
    (isDefinition_of_mem hdefinition).assignedName?

/-- The header defines the same names; its guard has no value. -/
lemma definedNames_headerFile :
    definedNames (headerFile project (variableAliases project used)).text =
      globalNames project (variableAliases project used) := by
  have hnames : ((definitionsOf project (variableAliases project used)).map (fun definition =>
      line ("#define " ++ definition.1 ++ " " ++ definition.2))).filterMap
        (fun pieces => definedName? (lineText pieces)) =
      globalNames project (variableAliases project used) := by
    rw [List.filterMap_map, ← map_fst_definitionsOf, ← List.filterMap_eq_map]
    refine List.filterMap_congr fun definition hdefinition => ?_
    rw [Function.comp_apply, lineText_line, (isDefinition_of_mem hdefinition).definedName?]
    rfl
  rw [definedNames, File.text, lines_renderLines, List.filterMap_map]
  · have hguard : [line "#ifndef GAME_GLOBALS_H", line "#define GAME_GLOBALS_H",
        blank].filterMap (definedName? ∘ lineText) = [] := by decide
    have hend : [blank, line "#endif"].filterMap (definedName? ∘ lineText) = [] := by decide
    rw [headerFile, List.filterMap_append, List.filterMap_append, hguard, hend, List.append_nil,
      List.nil_append]
    exact hnames
  · rw [headerFile, List.forall_mem_append, List.forall_mem_append]
    refine ⟨⟨?_, ?_⟩, ?_⟩
    · simp only [List.forall_mem_cons, lineText_line]
      exact ⟨⟨by decide, by decide⟩, ⟨by decide, by decide⟩, ⟨by decide, by decide⟩, by simp⟩
    · intro pieces hpieces
      obtain ⟨definition, hdefinition, rfl⟩ := List.mem_map.mp hpieces
      rw [lineText_line]
      exact (isDefinition_of_mem hdefinition).isLine.2
    · simp only [List.forall_mem_cons, lineText_line]
      exact ⟨⟨by decide, by decide⟩, ⟨by decide, by decide⟩, by simp⟩

end

/-! ## Names that are told apart -/

/-- A value that is new in a table stays the only one of its kind. -/
lemma nodup_setEntry {name value : String} {table : List (String × String)}
    (h : (table.map Prod.snd).Nodup) (hnew : value ∉ table.map Prod.snd) :
    ((setEntry name value table).map Prod.snd).Nodup := by
  induction table with
  | nil => exact List.nodup_singleton _
  | cons entry rest ih =>
    rw [List.map_cons, List.nodup_cons] at h
    rw [List.map_cons, List.mem_cons, not_or] at hnew
    rw [setEntry]
    split_ifs
    · rw [List.map_cons, List.nodup_cons]
      exact ⟨hnew.2, h.2⟩
    · rw [List.map_cons, List.nodup_cons]
      refine ⟨fun hmem => ?_, ih h.2 hnew.2⟩
      obtain ⟨other, hother, heq⟩ := List.mem_map.mp hmem
      rcases mem_setEntry hother with rfl | hrest
      · exact hnew.1 heq
      · exact h.1 (heq ▸ List.mem_map_of_mem hrest)

lemma nodup_foldl_setEntry {entries table : List (String × String)}
    (h : ((table ++ entries).map Prod.snd).Nodup) :
    ((entries.foldl (fun t entry => setEntry entry.1 entry.2 t) table).map Prod.snd).Nodup := by
  induction entries generalizing table with
  | nil => rwa [List.append_nil] at h
  | cons entry rest ih =>
    rw [List.foldl_cons]
    apply ih
    rw [List.map_append, List.map_cons, List.nodup_append, List.nodup_cons] at h
    obtain ⟨htable, ⟨hentry, hrest⟩, happart⟩ := h
    rw [List.map_append, List.nodup_append]
    refine ⟨nodup_setEntry htable fun hmem => ?_, hrest, fun value hvalue other hother heq => ?_⟩
    · exact happart _ hmem _ List.mem_cons_self rfl
    · obtain ⟨pair, hpair, rfl⟩ := List.mem_map.mp hvalue
      rcases mem_setEntry hpair with rfl | hold
      · exact hentry (heq ▸ hother)
      · exact happart _ (List.mem_map_of_mem hold) _ (List.mem_cons_of_mem _ hother) heq

/-- No two variables are called alike. -/
lemma nodup_variableAliases (project : Project) (used : List String) :
    ((variableAliases project used).map Prod.snd).Nodup := by
  rw [variableAliases]
  apply nodup_foldl_setEntry
  rw [List.nil_append, List.map_snd_zip]
  · exact nodup_upper_allocateAll _ _
  · rw [List.length_map, length_allocateAll, List.length_map]

/-- No two constants are called alike. -/
lemma nodup_constantNames (constants : List Constant) : (constantNames constants).Nodup :=
  nodup_upper_allocateAll _ _

/-- No variable is called like the number of variables. -/
lemma variableCountName_not_mem (project : Project) (used : List String) :
    variableCountName ∉ (variableAliases project used).map Prod.snd := by
  intro hmem
  obtain ⟨⟨id, name⟩, hentry, hname⟩ := List.mem_map.mp hmem
  have htagged := tagged_variableAliases hentry
  rw [show name = variableCountName from hname] at htagged
  rcases htagged with heq | hstart
  · exact absurd heq (by decide)
  · exact absurd hstart (by decide)

lemma nodup_globalNames_iff (project : Project) (used : List String) :
    (globalNames project (variableAliases project used)).Nodup ↔
      ∀ name ∈ constantNames project.constants,
        name ∉ (variableAliases project used).map Prod.snd ∧ name ≠ variableCountName := by
  have haliases := nodup_variableAliases project used
  have hcount := variableCountName_not_mem project used
  rw [globalNames, List.nodup_append, List.nodup_append]
  constructor
  · rintro ⟨⟨-, -, happart⟩, -, hlast⟩ name hname
    exact ⟨fun hmem => happart name hmem name hname rfl,
      hlast name (List.mem_append_right _ hname) _ (List.mem_singleton_self _)⟩
  · intro happart
    refine ⟨⟨haliases, nodup_constantNames _, fun name hname other hother heq => ?_⟩,
      List.nodup_singleton _, fun name hname other hother heq => ?_⟩
    · exact (happart other hother).1 (heq ▸ hname)
    · rw [List.mem_singleton.mp hother] at heq
      rcases List.mem_append.mp hname with hmem | hmem
      · exact hcount (heq ▸ hmem)
      · exact (happart name hmem).2 heq

/-! ## What constants ask for -/

/-- The name that a constant asks for. -/
def constantBase (c : Constant) : String :=
  baseName c.symbol ("constant_" ++ c.id)

/-- A constant is called what it asks for, or an alternative of that, in capitals. -/
lemma exists_constantBase {constants : List Constant} {name : String}
    (h : name ∈ constantNames constants) :
    ∃ c ∈ constants, ∃ small, IsSmall small ∧ name = Text.upper small ∧
      (small = constantBase c ∨ ∃ n, small = numbered (constantBase c) n) := by
  obtain ⟨small, hsmall, rfl⟩ := List.mem_map.mp h
  have hall : ∀ small ∈ (Allocator.empty.allocateAll
      (constants.map fun c => (c.symbol, "constant_" ++ c.id))).1, ∃ c ∈ constants,
        IsSmall small ∧ (small = constantBase c ∨ ∃ n, small = numbered (constantBase c) n) := by
    refine forall_mem_allocateAll (fun request hrequest a => ?_) _
    obtain ⟨c, hc, rfl⟩ := List.mem_map.mp hrequest
    refine ⟨c, hc, .choose a _ _, ?_⟩
    rcases a.choose_eq c.symbol ("constant_" ++ c.id) with ⟨-, heq⟩ | ⟨-, n, -, heq⟩
    · exact .inl heq
    · exact .inr ⟨n, heq⟩
  obtain ⟨c, hc, hshape⟩ := hall small hsmall
  exact ⟨c, hc, small, hshape.1, rfl, hshape.2⟩

/-- What an alternative starts with is a start of the name, or goes on behind it with an underscore
and digits. -/
lemma start_numbered {start : List Char} {base : String} {n : Nat}
    (h : start <+: (numbered base n).toList) :
    start <+: base.toList ∨ ∃ rest ≠ [], start = base.toList ++ rest ∧
      ∀ c ∈ rest, c = '_' ∨ c.isDigit = true := by
  have hlist : (numbered base n).toList = base.toList ++ ('_' :: Nat.toDigits 10 n) := by
    rw [numbered, String.toList_append, String.toList_append,
      @String.toList_ofList (Nat.toDigits 10 n), List.append_assoc]
    rfl
  rw [hlist] at h
  have hcases := List.prefix_or_prefix_of_prefix h (List.prefix_append base.toList _)
  rcases hcases with hstart | ⟨rest, rfl⟩
  · exact .inl hstart
  · by_cases hrest : rest = []
    · rw [hrest, List.append_nil]
      exact .inl List.prefix_rfl
    · refine .inr ⟨rest, hrest, rfl, fun c hc => ?_⟩
      have hmem := ((List.prefix_append_right_inj _).mp h).subset hc
      rcases List.mem_cons.mp hmem with rfl | hdigit
      · exact .inl rfl
      · exact .inr (Nat.isDigit_of_mem_toDigits (by decide) (by decide) hdigit)

lemma tagged_of_numbered {base : String} {n : Nat} (h : Tagged "var" (numbered base n)) :
    Tagged "var" base := by
  rcases h with heq | hstart
  · have hmem : '_' ∈ (numbered base n).toList := by
      rw [numbered, String.toList_append, String.toList_append]
      exact List.mem_append_left _ (List.mem_append_right _ (by decide))
    rw [heq] at hmem
    exact absurd hmem (by decide)
  · rcases start_numbered hstart with hbase | ⟨rest, hrest, heq, hchars⟩
    · exact .inr hbase
    · -- no letter of the tag is behind the name, so the name is the tag
      have hletters : ("var".toList.all fun c => c ≠ '_' && !c.isDigit) = true := by decide
      have hsplit : base.toList ++ rest = "var".toList ++ ['_'] := heq.symm
      refine .inl (String.toList_injective ?_)
      rcases List.append_eq_append_iff.mp hsplit with ⟨more, hbase, hrest'⟩ | ⟨more, hbase, hmark⟩
      · cases more with
        | nil => rw [hbase, List.append_nil]
        | cons c more =>
          have hletter := List.all_eq_true.mp hletters c (hbase ▸ by simp)
          rcases hchars c (hrest' ▸ List.mem_cons_self) with rfl | hdigit
          · exact absurd hletter (by decide)
          · rw [hdigit] at hletter
            simp at hletter
      · cases more with
        | nil => rw [hbase, List.append_nil]
        | cons c more =>
          have hnil := (List.append_eq_nil_iff.mp (List.cons.inj hmark).2.symm).2
          exact absurd hnil hrest

variable {small : String}

/-- A name in capitals starts with what the name starts with. -/
lemma start_of_upper (h : IsSmall small) {start : List Char}
    (hstart : start <+: (Text.upper small).toList) : start.map Char.toLower <+: small.toList := by
  rw [← h.map_toLower_upper]
  exact hstart.map _

lemma tagged_of_upper (h : IsSmall small) (htag : Tagged "VAR" (Text.upper small)) :
    Tagged "var" small := by
  rcases htag with heq | hstart
  · left
    rw [← String.toList_inj, ← h.map_toLower_upper, heq]
    decide
  · exact .inr (start_of_upper h hstart)

lemma eq_of_upper_eq_variableCountName (h : IsSmall small)
    (heq : Text.upper small = variableCountName) : small = "max_global_vars" := by
  rw [← String.toList_inj, ← h.map_toLower_upper, heq]
  decide

lemma numbered_ne_max (base : String) (n : Nat) : numbered base n ≠ "max_global_vars" := by
  intro heq
  have hdigits := lastWord_numbered base n
  rw [heq] at hdigits
  have hmem : 's' ∈ Nat.toDigits 10 n := by
    rw [← hdigits]
    decide
  have hdigit : 's'.isDigit = true := Nat.isDigit_of_mem_toDigits (by decide) (by decide) hmem
  exact absurd hdigit (by decide)

/-- A constant that asks for neither kind of name gets a name of its own. -/
lemma constant_apart_of_constantBase {project : Project} {used : List String}
    (h : ∀ c ∈ project.constants,
      ¬Tagged "var" (constantBase c) ∧ constantBase c ≠ "max_global_vars") :
    ∀ name ∈ constantNames project.constants,
      name ∉ (variableAliases project used).map Prod.snd ∧ name ≠ variableCountName := by
  intro name hname
  obtain ⟨c, hc, small, hsmall, rfl, hshape⟩ := exists_constantBase hname
  obtain ⟨huntagged, hne⟩ := h c hc
  constructor
  · intro hmem
    obtain ⟨⟨id, given⟩, hentry, hname⟩ := List.mem_map.mp hmem
    have htagged := tagged_variableAliases hentry
    rw [show given = Text.upper small from hname] at htagged
    have hsmallTagged := tagged_of_upper hsmall htagged
    rcases hshape with rfl | ⟨n, rfl⟩
    · exact huntagged hsmallTagged
    · exact huntagged (tagged_of_numbered hsmallTagged)
  · intro heq
    have hmax := eq_of_upper_eq_variableCountName hsmall heq
    rcases hshape with rfl | ⟨n, rfl⟩
    · exact hne hmax
    · exact numbered_ne_max _ _ hmax

/-! ## The files -/

/-- **When globals are defined once.**  Both files define the names of the used variables, of the
constants and of the number of variables.  These are pairwise distinct exactly when no constant is
called like a variable or like the number of variables: all other names are told apart, and so is
a constant unless it asks for a name of the others' kind. -/
theorem globals_defined_once_iff (project : Project) (used : List String) :
    let aliases := variableAliases project used
    ∃ listing header, globalsFiles project aliases = [listing, header] ∧
      listing.name = "game_globals.i" ∧ header.name = "game_globals.h" ∧
      assignedNames listing.text = globalNames project aliases ∧
      definedNames header.text = globalNames project aliases ∧
      ((globalNames project aliases).Nodup ↔
        ∀ name ∈ constantNames project.constants,
          name ∉ aliases.map (·.2) ∧ name ≠ variableCountName) ∧
      (aliases.map (·.2) ++ [variableCountName]).Nodup ∧
      (constantNames project.constants).Nodup ∧
      ((∀ c ∈ project.constants,
          ¬Tagged "var" (constantBase c) ∧ constantBase c ≠ "max_global_vars") →
        (globalNames project aliases).Nodup) := by
  intro aliases
  refine ⟨_, _, globalsFiles_eq project aliases, rfl, rfl, assignedNames_listingFile,
    definedNames_headerFile, nodup_globalNames_iff project used, ?_, nodup_constantNames _,
    fun h => ?_⟩
  · rw [List.nodup_append]
    refine ⟨nodup_variableAliases project used, List.nodup_singleton _, ?_⟩
    intro name hname other hother heq
    rw [List.mem_singleton.mp hother] at heq
    exact variableCountName_not_mem project used (heq ▸ hname)
  · exact (nodup_globalNames_iff project used).mpr (constant_apart_of_constantBase h)

/-- A variable and a constant that are both called `VAR_SCORE`. -/
theorem score_defined_twice :
    let project : Project :=
      { vars := [{ id := "0", symbol := "score" }]
        constants := [{ id := "c", symbol := "var_score", value := 5 }] }
    globalNames project (variableAliases project ["0"]) =
        ["VAR_SCORE", "VAR_SCORE", "MAX_GLOBAL_VARS"] ∧
      (globalsFiles project (variableAliases project ["0"])).head?.map File.text =
        some "VAR_SCORE = 0\nVAR_SCORE = 5\nMAX_GLOBAL_VARS = 1\n" := by
  decide +kernel

end Cartridge.Source
