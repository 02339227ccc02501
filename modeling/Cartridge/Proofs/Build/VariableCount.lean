import Cartridge.Build.Validation
import Cartridge.Proofs.Source.FileSet
import Cartridge.Proofs.Source.GlobalNames
import Cartridge.Proofs.Source.Products
import Cartridge.Source.Basic

/-!
# Reading back the number of variables

The check of a written build reads the number of variables from the file of globals: the first line
that starts with its name and goes on like a number.  The file gives the number in its last line,
behind the variables and the constants.

No variable is called like that.  A constant may be: it is taken for the number of variables if it
is called the same and is not negative, or if digits follow in its name, which are then read as the
number (`Misread`).  So the number that is read is that of the first such constant, and the number
of variables only if there is none (`Counted`, `numberIn?_listingFile`).
-/

namespace Cartridge.Text

/-! ## Blanks -/

lemma isBlank_of_isPlainChar {c : Char} (h : Symbol.isPlainChar c = true) : isBlank c = false := by
  rw [Symbol.isPlainChar_iff] at h
  simp [isBlank, RangeTable.contains, blankRanges]
  omega

lemma isBlank_space : isBlank ' ' = true := by
  decide +kernel

lemma isBlank_minus : isBlank '-' = false := by
  decide +kernel

lemma dropWhile_of_head {p : Char → Bool} {cs : List Char} (h : ∀ c ∈ cs.head?, p c = false) :
    cs.dropWhile p = cs := by
  cases cs with
  | nil => rfl
  | cons c rest => rw [List.dropWhile_cons_of_neg (by rw [h c rfl]; exact Bool.false_ne_true)]

/-- A text without blanks at its ends is not trimmed. -/
lemma trim_eq_self {text : String} (hfirst : ∀ c ∈ text.toList.head?, isBlank c = false)
    (hlast : ∀ c ∈ text.toList.getLast?, isBlank c = false) : trim text = text := by
  rw [trim, trimChars, dropWhile_of_head hfirst, dropWhile_of_head, List.reverse_reverse,
    String.ofList_toList]
  rwa [List.head?_reverse]

end Cartridge.Text

namespace Cartridge.Build

open Cartridge.Files (FileTree FilePath)
open Cartridge.Project
open Cartridge.Script (decimal)
open Cartridge.Source
open Cartridge.Symbol
open Cartridge.Text (IsLine isBlank)

/-! ## Words and numbers -/

/-- A word in front of a blank is the first one. -/
lemma head?_wordsOf_append {word rest : List Char} {b : Char} (hne : word ≠ [])
    (hword : ∀ c ∈ word, isBlank c = false) (hb : isBlank b = true) :
    (wordsOf (String.ofList (word ++ b :: rest))).head? = some (String.ofList word) := by
  rw [wordsOf, String.toList_ofList, Text.pieces_append_cons hb, Text.pieces_eq_singleton hword,
    List.singleton_append, List.filter_cons_of_pos (by simpa using hne), List.map_cons,
    List.head?_cons]

/-- A word alone, with or without a blank before it. -/
lemma wordsOf_word {word : List Char} (hne : word ≠ []) (hword : ∀ c ∈ word, isBlank c = false) :
    wordsOf (String.ofList word) = [String.ofList word] ∧
      wordsOf (String.ofList (' ' :: word)) = [String.ofList word] := by
  have hfilter : [word].filter (!·.isEmpty) = [word] :=
    List.filter_eq_self.mpr (by simpa using hne)
  constructor
  · rw [wordsOf, String.toList_ofList, Text.pieces_eq_singleton hword, hfilter]
    rfl
  · rw [wordsOf, String.toList_ofList, Text.pieces, if_pos Text.isBlank_space,
      Text.pieces_eq_singleton hword, List.filter_cons_of_neg (by simp), hfilter]
    rfl

lemma decimal64?_unsigned {text : String} (h : text.toList.head? ≠ some '+') :
    decimal64? text =
      if text.toList.isEmpty || !text.toList.all Char.isDigit then none
      else
        let n := text.toList.foldl (fun n c => n * 10 + (c.toNat - '0'.toNat)) 0
        if n < Nat.pow 2 64 then some n else none := by
  unfold decimal64?
  split
  · rename_i rest hrest
    rw [hrest] at h
    exact absurd rfl h
  · rfl

/-- A number that is printed is read back. -/
lemma decimal64?_decimal {n : Nat} (h : n < Nat.pow 2 64) : decimal64? (decimal n) = some n := by
  have hdigits : ∀ c ∈ Nat.toDigits 10 n, c.isDigit = true := fun c hc =>
    Nat.isDigit_of_mem_toDigits (by decide) (by decide) hc
  have hvalue : (Nat.toDigits 10 n).foldl (fun n c => n * 10 + (c.toNat - '0'.toNat)) 0 = n := by
    have hread := @Nat.ofDigitChars_ten_toDigits n
    rw [Nat.ofDigitChars] at hread
    simpa [Nat.mul_comm] using hread
  have hsign : (decimal n).toList.head? ≠ some '+' := by
    rw [decimal, String.toList_ofList]
    exact fun heq => absurd (hdigits '+' (List.mem_of_head? heq)) (by decide)
  rw [decimal64?_unsigned hsign, decimal, String.toList_ofList]
  dsimp only
  rw [hvalue, if_pos h, if_neg]
  rw [Bool.or_eq_true, not_or, List.isEmpty_iff, Bool.not_eq_true', Bool.not_eq_false,
    List.all_eq_true]
  exact ⟨Nat.toDigits_ne_nil, hdigits⟩

/-- A number with a minus sign is not read. -/
lemma decimal64?_minus (text : String) : decimal64? ("-" ++ text) = none := by
  have hlist : ("-" ++ text).toList = '-' :: text.toList := by
    rw [String.toList_append]
    rfl
  rw [decimal64?_unsigned (by rw [hlist]; simp), hlist]
  exact if_pos rfl

/-! ## Lines -/

/-- What follows a start, where the start cannot reach behind a mark. -/
lemma isPrefixOf?_append_of_not_mem {start : List Char} {c : Char} (h : c ∉ start)
    (front rest : List Char) :
    start.isPrefixOf? (front ++ c :: rest) = (start.isPrefixOf? front).map (· ++ c :: rest) := by
  induction start generalizing front with
  | nil => rfl
  | cons d start ih =>
    rw [List.mem_cons, not_or] at h
    cases front with
    | nil =>
      rw [List.nil_append, Text.isPrefixOf?_cons_of_ne (Ne.symm h.1)]
      rfl
    | cons e front =>
      rw [List.cons_append, List.isPrefixOf?, List.isPrefixOf?]
      split_ifs
      · exact ih h.2 front
      · rfl

/-- The first word of what follows a name, behind an equals sign if there is one. -/
def valueWord? (rest : String) : Option String :=
  (wordsOf (String.ofList ((Text.trimStart rest).toList.dropWhile (· == '=')))).head?

lemma lineNumber?_assignment {name line : String} (htrim : Text.trim line = line)
    (hdefine : afterStart? "#define " line = none) :
    lineNumber? name line = (afterStart? name line).bind fun rest =>
      (valueWord? rest).bind decimal64? := by
  rw [lineNumber?, htrim, hdefine]
  rfl

lemma lineNumber?_define {name line defined : String} (htrim : Text.trim line = line)
    (hdefine : afterStart? "#define " line = some defined) :
    lineNumber? name line = (afterStart? name (Text.trimStart defined)).bind fun rest =>
      (valueWord? rest).bind decimal64? := by
  rw [lineNumber?, htrim, hdefine]
  rfl

lemma isBlank_of_isNumeral {value : String} (h : IsNumeral value) {c : Char}
    (hc : c ∈ value.toList) : isBlank c = false := by
  rcases h c hc with rfl | hdigit
  · exact Text.isBlank_minus
  · refine Text.isBlank_of_isPlainChar ?_
    simp [isPlainChar, isWordChar, Char.isAlphanum, hdigit]

lemma isBlank_of_isPlain {name : String} (h : IsPlain name) {c : Char} (hc : c ∈ name.toList) :
    isBlank c = false :=
  Text.isBlank_of_isPlainChar (List.all_eq_true.mp h c hc)

lemma valueWord?_equals {value : String} (h : IsNumeral value) (hne : value ≠ "") :
    valueWord? (" = " ++ value) = some value := by
  have hlist : (" = " ++ value).toList = ' ' :: '=' :: ' ' :: value.toList := by
    rw [String.toList_append]
    rfl
  have hequals : isBlank '=' = false := by decide +kernel
  rw [valueWord?, Text.trimStart, hlist, List.dropWhile_cons_of_pos Text.isBlank_space,
    List.dropWhile_cons_of_neg (by rw [hequals]; exact Bool.false_ne_true), String.toList_ofList,
    List.dropWhile_cons_of_pos rfl, List.dropWhile_cons_of_neg (by decide),
    (wordsOf_word (by simpa using hne) fun c hc => isBlank_of_isNumeral h hc).2, List.head?_cons,
    String.ofList_toList]

lemma toList_definition (first value : String) :
    (first ++ " = " ++ value).toList = first.toList ++ ' ' :: '=' :: ' ' :: value.toList := by
  rw [String.toList_append, String.toList_append, List.append_assoc]
  rfl

lemma valueWord?_plain {rest value : String} (h : IsPlain rest) (hne : rest ≠ "") :
    valueWord? (rest ++ " = " ++ value) = some rest := by
  have hhead : ∀ c ∈ (rest.toList ++ ' ' :: '=' :: ' ' :: value.toList).head?, c ∈ rest.toList := by
    intro c hc
    rw [List.head?_append_of_ne_nil _ (by simpa using hne)] at hc
    exact List.mem_of_head? hc
  have hblanks : (rest.toList ++ ' ' :: '=' :: ' ' :: value.toList).dropWhile isBlank =
      rest.toList ++ ' ' :: '=' :: ' ' :: value.toList :=
    Text.dropWhile_of_head fun c hc => isBlank_of_isPlain h (hhead c hc)
  have hequals : (rest.toList ++ ' ' :: '=' :: ' ' :: value.toList).dropWhile (· == '=') =
      rest.toList ++ ' ' :: '=' :: ' ' :: value.toList := by
    refine Text.dropWhile_of_head fun c hc => beq_eq_false_iff_ne.mpr ?_
    rintro rfl
    exact not_mem_of_isPlain h (by decide) (hhead _ hc)
  rw [valueWord?, Text.trimStart, toList_definition, hblanks, String.toList_ofList, hequals,
    head?_wordsOf_append (by simpa using hne) (fun c hc => isBlank_of_isPlain h hc)
      Text.isBlank_space, String.ofList_toList]

lemma afterStart?_definition {name : String} (hname : IsPlain name) (first value : String) :
    afterStart? name (first ++ " = " ++ value) =
      (afterStart? name first).map fun rest => rest ++ " = " ++ value := by
  rw [afterStart?, afterStart?, toList_definition,
    isPrefixOf?_append_of_not_mem (not_mem_of_isPlain hname (by decide)), Option.map_map,
    Option.map_map]
  refine congrArg (fun f => Option.map f _) (funext fun rest => String.toList_injective ?_)
  simp

lemma isPlain_of_afterStart? {name first rest : String} (h : IsPlain first)
    (hrest : afterStart? name first = some rest) : IsPlain rest := by
  obtain ⟨cs, hcs, rfl⟩ := Option.map_eq_some_iff.mp hrest
  rw [List.isPrefixOf?_eq_some_iff_append_eq] at hcs
  rw [IsPlain, ← hcs, List.all_append, Bool.and_eq_true] at h
  rw [IsPlain, String.toList_ofList]
  exact h.2

/-- How a definition is read that looks for a name: where the name goes on behind the one that is
looked for, what follows counts as the value. -/
lemma lineNumber?_definition {name first value : String} (hname : IsPlain name)
    (hfirst : IsPlain first) (hne : first ≠ "") (hvalue : IsNumeral value) (hne' : value ≠ "") :
    lineNumber? name (first ++ " = " ++ value) =
      (afterStart? name first).bind fun rest =>
        decimal64? (if rest = "" then value else rest) := by
  have hchars : first.toList ≠ [] := by simpa using hne
  have htrim : Text.trim (first ++ " = " ++ value) = first ++ " = " ++ value := by
    refine Text.trim_eq_self (fun c hc => ?_) fun c hc => ?_
    · rw [toList_definition, List.head?_append_of_ne_nil _ hchars] at hc
      exact isBlank_of_isPlain hfirst (List.mem_of_head? hc)
    · rw [String.toList_append, List.getLast?_append_of_ne_nil _ (by simpa using hne')] at hc
      exact isBlank_of_isNumeral hvalue (List.mem_of_getLast? hc)
  have hdefine : afterStart? "#define " (first ++ " = " ++ value) = none := by
    obtain ⟨c, more, hcons⟩ := List.exists_cons_of_ne_nil hchars
    have hhash : '#' ≠ c := by
      rintro rfl
      exact not_mem_of_isPlain hfirst (by decide) (hcons ▸ List.mem_cons_self)
    have hstart : "#define ".toList = '#' :: "define ".toList := rfl
    rw [afterStart?, toList_definition, hcons, List.cons_append, hstart,
      Text.isPrefixOf?_cons_of_ne hhash, Option.map_none]
  rw [lineNumber?_assignment htrim hdefine, afterStart?_definition hname]
  cases hrest : afterStart? name first with
  | none => rw [Option.map_none, Option.bind_none, Option.bind_none]
  | some rest =>
    rw [Option.map_some, Option.bind_some, Option.bind_some]
    split_ifs with hempty
    · rw [hempty, String.empty_append, valueWord?_equals hvalue hne', Option.bind_some]
    · rw [valueWord?_plain (isPlain_of_afterStart? hfirst hrest) hempty, Option.bind_some]

/-! ## Constants that are taken for the number of variables -/

/-- A constant with a name and a value reads as a number of variables. -/
inductive Misread (name : String) (value : Int) : Nat → Prop
  /-- It is called like the number of variables. -/
  | same (h : name = variableCountName) (hvalue : 0 ≤ value) : Misread name value value.toNat
  /-- Its name goes on with digits. -/
  | longer {digits n} (h : name = variableCountName ++ digits) (hne : digits ≠ "")
      (hn : decimal64? digits = some n) : Misread name value n

/-- The number that is read behind constants with their names: that of the first one that is
misread, or the real one. -/
inductive Counted (count : Nat) : List (String × Constant) → Nat → Prop
  | real : Counted count [] count
  | misread {name c rest n} (h : Misread name c.value.toInt n) : Counted count ((name, c) :: rest) n
  | next {name c rest n} (h : ∀ m, ¬Misread name c.value.toInt m) (hrest : Counted count rest n) :
      Counted count ((name, c) :: rest) n

lemma isPlain_variableCountName : IsPlain variableCountName := by
  show variableCountName.toList.all isPlainChar = true
  decide

lemma afterStart?_eq_some_iff {start text rest : String} :
    afterStart? start text = some rest ↔ text = start ++ rest := by
  rw [afterStart?, Option.map_eq_some_iff]
  constructor
  · rintro ⟨cs, hcs, rfl⟩
    rw [List.isPrefixOf?_eq_some_iff_append_eq] at hcs
    rw [← String.toList_inj, String.toList_append, String.toList_ofList, hcs]
  · rintro rfl
    refine ⟨rest.toList, ?_, String.ofList_toList⟩
    rw [List.isPrefixOf?_eq_some_iff_append_eq, String.toList_append]

lemma decimal64?_integerText {value : Int} (h : value.natAbs < Nat.pow 2 64) {n : Nat} :
    decimal64? (integerText value) = some n ↔ 0 ≤ value ∧ n = value.toNat := by
  rw [integerText]
  split_ifs with hnegative
  · rw [decimal64?_minus]
    simp [hnegative]
  · rw [decimal64?_decimal (by omega), Option.some_inj]
    constructor
    · exact fun heq => ⟨by omega, heq.symm⟩
    · exact fun heq => heq.2.symm

lemma decimal_ne_empty (n : Nat) : decimal n ≠ "" := by
  rw [decimal, ne_eq, ← String.toList_inj, String.toList_ofList]
  exact Nat.toDigits_ne_nil

lemma integerText_ne_empty (value : Int) : integerText value ≠ "" := by
  rw [integerText]
  split_ifs
  · simp
  · exact decimal_ne_empty _

lemma lineNumber?_constant_iff {name : String} (hname : IsPlain name) (hne : name ≠ "")
    {value : Int} (hvalue : value.natAbs < Nat.pow 2 64) {n : Nat} :
    lineNumber? variableCountName (name ++ " = " ++ integerText value) = some n ↔
      Misread name value n := by
  rw [lineNumber?_definition isPlain_variableCountName hname hne (isNumeral_integerText value)
    (integerText_ne_empty value), Option.bind_eq_some_iff]
  constructor
  · rintro ⟨rest, hrest, hread⟩
    rw [afterStart?_eq_some_iff] at hrest
    split_ifs at hread with hempty
    · obtain ⟨hsign, rfl⟩ := (decimal64?_integerText hvalue).mp hread
      exact .same (by rw [hrest, hempty, String.append_empty]) hsign
    · exact .longer hrest hempty hread
  · intro h
    cases h with
    | same h hsign =>
      refine ⟨"", afterStart?_eq_some_iff.mpr (by rw [h, String.append_empty]), ?_⟩
      rw [if_pos rfl]
      exact (decimal64?_integerText hvalue).mpr ⟨hsign, rfl⟩
    | @longer digits _ h hne hn =>
      refine ⟨digits, afterStart?_eq_some_iff.mpr h, ?_⟩
      rwa [if_neg hne]

lemma constantName_ne_empty {constants : List Constant} {name : String}
    (h : name ∈ constantNames constants) : name ≠ "" := by
  obtain ⟨c, -, small, hsmall, rfl, hshape⟩ := exists_constantBase h
  have hbase : constantBase c ≠ "" := by
    rw [constantBase, Allocator.baseName]
    split_ifs with hfirst hsecond
    · exact hfirst
    · exact hsecond
    · decide
  have hne : small ≠ "" := by
    rcases hshape with rfl | ⟨n, rfl⟩
    · exact hbase
    · simp [Allocator.numbered]
  rw [ne_eq, ← String.toList_inj, toList_upper hsmall.isPlain]
  simpa using hne

lemma natAbs_value_lt (c : Constant) : c.value.toInt.natAbs < Nat.pow 2 64 := by
  have hlow := c.value.le_toInt
  have hhigh := c.value.toInt_lt
  have hbound : Nat.pow 2 64 = 18446744073709551616 := by decide
  omega

/-- The lines of constants, followed by that of the real number. -/
lemma exists_counted {pairs : List (String × Constant)}
    (h : ∀ pair ∈ pairs, IsPlain pair.1 ∧ pair.1 ≠ "") (count : Nat) :
    ∃ n, Counted count pairs n ∧
      (pairs.findSome? fun pair => lineNumber? variableCountName
        (pair.1 ++ " = " ++ integerText pair.2.value.toInt)).or (some count) = some n := by
  induction pairs with
  | nil => exact ⟨count, .real, rfl⟩
  | cons pair rest ih =>
    obtain ⟨name, c⟩ := pair
    rw [List.forall_mem_cons] at h
    have hread : ∀ {n}, lineNumber? variableCountName
        (name ++ " = " ++ integerText c.value.toInt) = some n ↔ Misread name c.value.toInt n :=
      lineNumber?_constant_iff h.1.1 h.1.2 (natAbs_value_lt c)
    rw [List.findSome?_cons]
    dsimp only
    cases hline : lineNumber? variableCountName
        (name ++ " = " ++ integerText c.value.toInt) with
    | none =>
      obtain ⟨n, hcounted, hrest⟩ := ih h.2
      refine ⟨n, .next (fun m hm => ?_) hcounted, hrest⟩
      rw [hread.mpr hm] at hline
      cases hline
    | some n => exact ⟨n, .misread (hread.mp hline), rfl⟩

/-- The line of a variable is not read: none is called like the number of variables, not even at
its start. -/
lemma lineNumber?_variable {project : Project} {used : List String} {entry : String × String}
    (h : entry ∈ variableAliases project used) (i : Nat) :
    lineNumber? variableCountName (entry.2 ++ " = " ++ decimal i) = none := by
  have htagged : Allocator.Tagged "VAR" entry.2 := tagged_variableAliases h
  have hfirst : entry.2.toList.head? = some 'V' := by
    rcases htagged with heq | ⟨rest, hrest⟩
    · rw [heq]
      rfl
    · rw [← hrest]
      rfl
  have hne : entry.2 ≠ "" := by
    intro hempty
    rw [hempty] at hfirst
    cases hfirst
  rw [lineNumber?_definition isPlain_variableCountName (isPlain_variableAliases h) hne
    (isNumeral_decimal i) (decimal_ne_empty i), Option.bind_eq_none_iff]
  intro rest hrest
  rw [afterStart?_eq_some_iff.mp hrest, String.toList_append] at hfirst
  exact absurd hfirst (by simp [variableCountName])

lemma lineNumber?_count {count : Nat} (h : count < Nat.pow 2 64) :
    lineNumber? variableCountName (variableCountName ++ " = " ++ decimal count) = some count := by
  have hrest : afterStart? variableCountName variableCountName = some "" :=
    afterStart?_eq_some_iff.mpr String.append_empty.symm
  rw [lineNumber?_definition isPlain_variableCountName isPlain_variableCountName (by decide)
    (isNumeral_decimal count) (decimal_ne_empty count), hrest, Option.bind_some, if_pos rfl,
    decimal64?_decimal h]

/-- What is read from the file of globals. -/
lemma numberIn?_listingFile (project : Project) (used : List String)
    (hcount : (variableAliases project used).length < Nat.pow 2 64) :
    ∃ n, Counted (variableAliases project used).length
        ((constantNames project.constants).zip project.constants) n ∧
      numberIn? (listingFile project (variableAliases project used)).text variableCountName =
        some n := by
  have hpairs : ∀ pair ∈ (constantNames project.constants).zip project.constants,
      IsPlain pair.1 ∧ pair.1 ≠ "" := fun pair hpair =>
    ⟨isPlain_upper_of_mem_allocateAll (List.of_mem_zip hpair).1,
      constantName_ne_empty (List.of_mem_zip hpair).1⟩
  obtain ⟨n, hcounted, hread⟩ := exists_counted hpairs (variableAliases project used).length
  refine ⟨n, hcounted, ?_⟩
  have hvariables : ((variableAliases project used).zipIdx.findSome? fun pair =>
      lineNumber? variableCountName (pair.1.2 ++ " = " ++ decimal pair.2)) = none := by
    rw [List.findSome?_eq_none_iff]
    exact fun pair hpair => lineNumber?_variable
      (List.mem_of_getElem? (List.mem_zipIdx_iff_getElem?.mp hpair)) pair.2
  rw [numberIn?, lines_listingFile, List.findSome?_map, definitionsOf, globalDefinitions_eq,
    List.findSome?_append, List.findSome?_append, List.findSome?_map, List.findSome?_map,
    List.findSome?_singleton]
  simp only [Function.comp_def]
  rw [hvariables, Option.none_or, lineNumber?_count hcount, hread]

/-! ## When constants do no harm -/

lemma Counted.eq_of_not_misread {count : Nat} {pairs : List (String × Constant)} {n : Nat}
    (h : Counted count pairs n)
    (hnone : ∀ pair ∈ pairs, ∀ m, ¬Misread pair.1 pair.2.value.toInt m) : n = count := by
  induction h with
  | real => rfl
  | misread h => exact absurd h (hnone _ List.mem_cons_self _)
  | next _ _ ih => exact ih fun pair hpair => hnone pair (List.mem_cons_of_mem _ hpair)

lemma start_of_misread {name : String} {value : Int} {n : Nat} (h : Misread name value n) :
    variableCountName.toList <+: name.toList := by
  cases h with
  | same h => exact h ▸ List.prefix_rfl
  | longer h =>
    rw [h, String.toList_append]
    exact List.prefix_append _ _

/-- A constant that asks for no name with such a start is not misread. -/
lemma not_misread_of_constantBase {constants : List Constant}
    (h : ∀ c ∈ constants, ¬"max_global_vars".toList <+: (constantBase c).toList) {name : String}
    (hname : name ∈ constantNames constants) (value : Int) (n : Nat) : ¬Misread name value n := by
  intro hmisread
  obtain ⟨c, hc, small, hsmall, rfl, hshape⟩ := exists_constantBase hname
  have hstart : "max_global_vars".toList <+: small.toList :=
    start_of_upper hsmall (start_of_misread hmisread)
  rcases hshape with rfl | ⟨k, rfl⟩
  · exact h c hc hstart
  · rcases start_numbered hstart with hbase | ⟨rest, hrest, heq, hchars⟩
    · exact h c hc hbase
    · -- the last letter would be an underscore or a digit
      have hlast := congrArg List.getLast? heq
      rw [List.getLast?_append_of_ne_nil _ hrest] at hlast
      have hletter := hchars 's' (List.mem_of_getLast? hlast.symm)
      exact absurd hletter (by decide)

/-! ## The header -/

lemma valueWord?_decimal (n : Nat) : valueWord? (" " ++ decimal n) = some (decimal n) := by
  have hlist : (" " ++ decimal n).toList = ' ' :: (decimal n).toList := by
    rw [String.toList_append]
    rfl
  have hnumeral := isNumeral_decimal n
  have hhead : ∀ c ∈ (decimal n).toList.head?, isBlank c = false ∧ (c == '=') = false := by
    intro c hc
    refine ⟨isBlank_of_isNumeral hnumeral (List.mem_of_head? hc), beq_eq_false_iff_ne.mpr ?_⟩
    rintro rfl
    exact absurd (hnumeral _ (List.mem_of_head? hc)) (by decide)
  rw [valueWord?, Text.trimStart, hlist, List.dropWhile_cons_of_pos Text.isBlank_space,
    Text.dropWhile_of_head fun c hc => (hhead c hc).1, String.toList_ofList,
    Text.dropWhile_of_head fun c hc => (hhead c hc).2,
    (wordsOf_word (by simpa using decimal_ne_empty n) fun c hc =>
      isBlank_of_isNumeral hnumeral hc).1,
    List.head?_cons, String.ofList_toList]

lemma lineNumber?_header {heap : Nat} (h : heap < Nat.pow 2 64) :
    lineNumber? "VM_HEAP_SIZE" ("#define VM_HEAP_SIZE " ++ decimal heap) = some heap := by
  have htrim : Text.trim ("#define VM_HEAP_SIZE " ++ decimal heap) =
      "#define VM_HEAP_SIZE " ++ decimal heap := by
    refine Text.trim_eq_self (fun c hc => ?_) fun c hc => ?_
    · rw [String.toList_append, List.head?_append_of_ne_nil _ (by decide)] at hc
      cases hc
      decide +kernel
    · rw [String.toList_append,
        List.getLast?_append_of_ne_nil _ (by simpa using decimal_ne_empty heap)] at hc
      exact isBlank_of_isNumeral (isNumeral_decimal heap) (List.mem_of_getLast? hc)
  have hdefine : afterStart? "#define " ("#define VM_HEAP_SIZE " ++ decimal heap) =
      some ("VM_HEAP_SIZE" ++ (" " ++ decimal heap)) := by
    rw [afterStart?_eq_some_iff, ← String.append_assoc, ← String.append_assoc]
    rfl
  have hstart : Text.trimStart ("VM_HEAP_SIZE" ++ (" " ++ decimal heap)) =
      "VM_HEAP_SIZE" ++ (" " ++ decimal heap) := by
    rw [Text.trimStart, Text.dropWhile_of_head, String.ofList_toList]
    intro c hc
    rw [String.toList_append, List.head?_append_of_ne_nil _ (by decide)] at hc
    cases hc
    decide +kernel
  rw [lineNumber?_define htrim hdefine, hstart, afterStart?_eq_some_iff.mpr rfl, Option.bind_some,
    valueWord?_decimal, Option.bind_some, decimal64?_decimal h]

/-- The room for variables is read from the line that defines it. -/
lemma numberIn?_header {heap : Nat} (h : heap < Nat.pow 2 64) {ending : String}
    (hending : ending = "" ∨ ending = "\n") :
    numberIn? ("#define VM_HEAP_SIZE " ++ decimal heap ++ ending) "VM_HEAP_SIZE" = some heap := by
  have hliteral : IsLine "#define VM_HEAP_SIZE " := ⟨by decide, by decide⟩
  have hlines : Text.lines ("#define VM_HEAP_SIZE " ++ decimal heap ++ ending) =
      ["#define VM_HEAP_SIZE " ++ decimal heap] := by
    have hsingle := Text.lines_single (hliteral.append (isNumeral_decimal heap).isLine) (by simp)
    rcases hending with rfl | rfl
    · rw [String.append_empty]
      exact hsingle.1
    · exact hsingle.2
  rw [numberIn?, hlines, List.findSome?_singleton, lineNumber?_header h]

/-! ## The written build -/

lemma variableWarnings_of_numbers {header globals : String} {heap n : Nat}
    (hheap : numberIn? header "VM_HEAP_SIZE" = some heap)
    (hn : numberIn? globals "MAX_GLOBAL_VARS" = some n) :
    variableWarnings header globals = if heap < n then [tooManyVariables heap n] else [] := by
  rw [variableWarnings, hheap, hn]

/-- **What the check of a build reads back.**  The number of variables that is read from the
generated file of globals is that of the first constant that is misread, and the number of variables
in the file if there is none; in particular if no constant asks for a name that starts like that of
the number.  On a platform with a limit, the check compares what it reads with the room that the
header gives and warns about nothing else. -/
theorem variable_count_read_back {input : Source.Input} {used : List String}
    (haliases : input.aliases = variableAliases input.project used)
    (hcount : input.aliases.length < Nat.pow 2 64) {set later : FileSet}
    (hset : (set.files.map Prod.fst).Nodup) (hfiles : set.addFiles (dataFiles input) = .ok later) :
    ∃ text n, later.get? "game_globals.i" = some text ∧
      numberIn? text "MAX_GLOBAL_VARS" = some n ∧
      Counted input.aliases.length
        ((constantNames input.project.constants).zip input.project.constants) n ∧
      ((∀ c ∈ input.project.constants, ¬"max_global_vars".toList <+: (constantBase c).toList) →
        n = input.aliases.length) ∧
      ∀ (tree : FileTree) (root : FilePath) (platform : Platform) (heap : Nat) (ending : String),
        platform.isAdvance = false → heap < Nat.pow 2 64 → (ending = "" ∨ ending = "\n") →
        tree.readText (root.join "include/vm.h") =
          .ok ("#define VM_HEAP_SIZE " ++ decimal heap ++ ending) →
        tree.readText (root.join "include/data/game_globals.i") = .ok text →
        validationWarnings tree root platform =
          if heap < n then [tooManyVariables heap n] else [] := by
  rw [haliases] at hcount
  obtain ⟨n, hcounted, hread⟩ := numberIn?_listingFile input.project used hcount
  obtain ⟨⟨-, hnodup⟩, rfl⟩ := FileSet.addFiles_eq_ok hset hfiles
  rw [← FileSet.map_fst_extended] at hnodup
  have hlisting : listingFile input.project (variableAliases input.project used) ∈
      dataFiles input := by
    have hmem : listingFile input.project input.aliases ∈
        globalsFiles input.project input.aliases := List.mem_cons_self
    rw [dataFiles, ← haliases]
    simp only [List.mem_append]
    exact .inl (.inl (.inl (.inr hmem)))
  have hget : (set.extended (dataFiles input)).get? "game_globals.i" =
      some (listingFile input.project (variableAliases input.project used)).text := by
    refine get?_of_mem_files hnodup ?_
    exact List.mem_append_right _ (List.mem_map.mpr ⟨_, hlisting, rfl⟩)
  rw [haliases]
  refine ⟨_, n, hget, hread, hcounted, fun hbases => ?_, ?_⟩
  · exact hcounted.eq_of_not_misread fun pair hpair =>
      not_misread_of_constantBase hbases (List.of_mem_zip hpair).1 _
  · intro tree root platform heap ending hplatform hheap hending hheader hglobals
    rw [validationWarnings, hplatform, if_neg Bool.false_ne_true, hheader, hglobals]
    exact variableWarnings_of_numbers (numberIn?_header hheap hending) hread

/-! ## A misnamed constant -/

/-- A project with a variable and a constant whose name looks like a number of variables. -/
def misnamedProject : Project where
  vars := [{ id := "0", symbol := "score" }]
  constants := [{ id := "c", symbol := "max_global_vars2", value := 7 }]

/-- The project alone, without any scene. -/
def misnamedInput : Source.Input where
  project := misnamedProject
  tables :=
    { vars := ["0"], backgrounds := {}, tilesets := [], sprites := {}, fonts := [], avatars := []
      emotes := [], music := [], sounds := [], interface := ⟨[], []⟩, scenes := [], palettes := {}
      musicSymbols := [] }
  scripts := []
  aliases := variableAliases misnamedProject ["0"]
  usedTypes := []
  knownTypes := []

/-- A written build with a header and a file of globals. -/
def writtenTree (header globals : String) : FileTree where
  entries :=
    [(["game"], .folder), (["game", "include"], .folder),
      (["game", "include", "vm.h"], .file (.bytes header.toUTF8) false),
      (["game", "include", "data"], .folder),
      (["game", "include", "data", "game_globals.i"], .file (.bytes globals.toUTF8) false)]

lemma ofUtf8?_toUTF8 (text : String) : Text.ofUtf8? text.toUTF8 = some text :=
  dif_pos text.isValidUTF8

lemma readText_of_find {tree : FileTree} {path : FilePath} {text : String}
    (h : tree.find path = .ok (.file (.bytes text.toUTF8) false)) :
    tree.readText path = .ok text := by
  rw [FileTree.readText, h]
  simp only [bind, Except.bind, ofUtf8?_toUTF8]

/-- The constant is called `MAX_GLOBAL_VARS2` and read as two variables. -/
lemma eq_two_of_counted {count n : Nat} (h : Counted count
      ((constantNames misnamedProject.constants).zip misnamedProject.constants) n) : n = 2 := by
  have hnames : constantNames misnamedProject.constants = ["MAX_GLOBAL_VARS2"] := by decide +kernel
  have hname : "MAX_GLOBAL_VARS2" = variableCountName ++ "2" := rfl
  have htwo : decimal64? "2" = some 2 := by decide
  rw [hnames] at h
  cases h with
  | misread h =>
    cases h with
    | same h => exact absurd h (by decide)
    | longer h _ hn =>
      obtain rfl := (String.append_right_inj _).mp (hname.symm.trans h)
      exact Option.some_inj.mp (hn.symm.trans htwo)
  | next h => exact absurd (.longer hname (by decide) htwo) (h 2)

/-- One variable and one constant are counted as two variables. -/
theorem variable_count_read_back_misnamed :
    ∃ later text, FileSet.addFiles {} (dataFiles misnamedInput) = .ok later ∧
      later.get? "game_globals.i" = some text ∧ misnamedInput.aliases.length = 1 ∧
      numberIn? text "MAX_GLOBAL_VARS" = some 2 ∧
      validationWarnings (writtenTree ("#define VM_HEAP_SIZE " ++ decimal 1 ++ "\n") text) ⟨"/game"⟩
        .gameBoy = [tooManyVariables 1 2] := by
  have hlength : misnamedInput.aliases.length = 1 := by decide +kernel
  have hfits : ∀ file ∈ dataFiles misnamedInput, file.fits = true :=
    (fits_dataFiles_iff (Nat.le_refl _)).mpr ⟨by decide, by decide, by decide, by decide⟩
  have hfiles := FileSet.addFiles_of_nodup hfits
    (by decide +kernel : ((dataFiles misnamedInput).map File.name).Nodup)
  obtain ⟨text, n, hget, hread, hcounted, -, hwarnings⟩ :=
    variable_count_read_back rfl (by rw [hlength]; decide) FileSet.nodup_empty hfiles
  obtain rfl := eq_two_of_counted hcounted
  refine ⟨_, text, hfiles, hget, hlength, hread, ?_⟩
  exact hwarnings _ _ _ 1 "\n" rfl (by decide) (.inr rfl) (readText_of_find rfl)
    (readText_of_find rfl)

/-- A constant takes the place of the number of variables: there is room for one variable, the file
defines none, and the check finds two. -/
theorem constant_counted_as_variables :
    let project : Project :=
      { constants := [{ id := "c", symbol := "max_global_vars2", value := 7 }] }
    (variableAliases project []).length = 0 ∧
      (globalsFiles project (variableAliases project [])).head?.map File.text =
        some "MAX_GLOBAL_VARS2 = 7\nMAX_GLOBAL_VARS = 0\n" ∧
      variableWarnings "#define VM_HEAP_SIZE 1\n" "MAX_GLOBAL_VARS2 = 7\nMAX_GLOBAL_VARS = 0\n" =
        [tooManyVariables 1 2] := by
  decide +kernel

end Cartridge.Build
