import Cartridge.Proofs.Symbol.Freshness
import Cartridge.Proofs.Text.Letters

/-!
# The normal form of identifiers

An identifier is empty or has runs of small letters and digits with single underscores between
them, a letter in front and no underscore at its end (`IsNormal`).  Nothing about lower case counts
but that small letters, digits and the underscore stay what they are and that no capital comes out
(`Lowers`), so an identifier is its own identifier.  Names that are handed out are normal too: a
number behind a name is one more run (`IsNormal.numbered`).
-/

namespace Cartridge.Symbol

/-- Small letters and digits. -/
def isRunChar (c : Char) : Bool :=
  c.isLower || c.isDigit

/-- Runs of small letters and digits with single underscores between them. -/
inductive Runs : List Char → Prop
  | last {run : List Char} (hne : run ≠ []) (hrun : ∀ c ∈ run, isRunChar c = true) : Runs run
  | cons {run rest : List Char} (hne : run ≠ []) (hrun : ∀ c ∈ run, isRunChar c = true)
    (hrest : Runs rest) : Runs (run ++ '_' :: rest)

/-- Runs that start with a letter and end with a letter or a digit. -/
structure IsNormal (name : String) : Prop where
  runs : Runs name.toList
  head : ∃ c, name.toList.head? = some c ∧ c.isLower = true
  getLast : ∃ c, name.toList.getLast? = some c ∧ isRunChar c = true

/-- A mapping of characters to lower case.  It keeps small letters, digits and the underscore
(`fixed`), and beyond that no capital letter from `A` to `Z` may come out of it (`small`). -/
structure Lowers (lower : Char → List Char) : Prop where
  fixed : ∀ c, isRunChar c = true ∨ c = '_' → lower c = [c]
  small : ∀ c, ∀ d ∈ lower c, ¬d.isUpper = true

/-- The identifier of a text under a mapping to lower case. -/
def identifierBy (lower : Char → List Char) (text : String) : String :=
  String.ofList (guardDigit (words (text.toList.flatMap lower)))

variable {c : Char} {cs : List Char}

/-! ## Runs -/

lemma isWordChar_of_isRunChar (h : isRunChar c = true) : isWordChar c = true := by
  rw [isRunChar, Bool.or_eq_true] at h
  rw [isWordChar, Char.isAlphanum, Char.isAlpha, Bool.or_eq_true, Bool.or_eq_true]
  exact h.imp_left .inr

lemma isRunChar_of_isWordChar (h : isWordChar c = true) (hsmall : ¬c.isUpper = true) :
    isRunChar c = true := by
  rw [isWordChar, Char.isAlphanum, Char.isAlpha, Bool.or_eq_true, Bool.or_eq_true] at h
  rw [isRunChar, Bool.or_eq_true]
  exact h.imp_left (·.resolve_left hsmall)

namespace Runs

/-- A character in front makes the first run longer. -/
lemma cons_char (hc : isRunChar c = true) (h : Runs cs) : Runs (c :: cs) := by
  cases h with
  | last _ hrun => exact .last (List.cons_ne_nil _ _) (List.forall_mem_cons.mpr ⟨hc, hrun⟩)
  | cons _ hrun hrest =>
    exact .cons (List.cons_ne_nil _ _) (List.forall_mem_cons.mpr ⟨hc, hrun⟩) hrest

/-- A character before an underscore is a run of its own. -/
lemma cons_underscore (hc : isRunChar c = true) (h : Runs cs) : Runs (c :: '_' :: cs) :=
  .cons (List.cons_ne_nil c []) (List.forall_mem_singleton.mpr hc) h

lemma append {cs' : List Char} (h : Runs cs) (h' : Runs cs') : Runs (cs ++ '_' :: cs') := by
  induction h with
  | last hne hrun => exact .cons hne hrun h'
  | cons hne hrun _ ih =>
    rw [List.append_assoc, List.cons_append]
    exact .cons hne hrun ih

lemma exists_head (h : Runs cs) : ∃ c rest, cs = c :: rest ∧ isRunChar c = true := by
  cases h with
  | last hne hrun =>
    obtain ⟨c, rest, rfl⟩ := List.exists_cons_of_ne_nil hne
    exact ⟨c, rest, rfl, hrun c List.mem_cons_self⟩
  | cons hne hrun _ =>
    obtain ⟨c, rest, rfl⟩ := List.exists_cons_of_ne_nil hne
    exact ⟨c, _, List.cons_append, hrun c List.mem_cons_self⟩

lemma ne_nil (h : Runs cs) : cs ≠ [] := by
  obtain ⟨c, rest, rfl, -⟩ := h.exists_head
  exact List.cons_ne_nil c rest

lemma exists_getLast (h : Runs cs) : ∃ c, cs.getLast? = some c ∧ isRunChar c = true := by
  induction h with
  | last hne hrun => exact ⟨_, List.getLast?_eq_some_getLast hne, hrun _ (List.getLast_mem hne)⟩
  | @cons run rest _ _ hrest ih =>
    obtain ⟨c, hlast, hc⟩ := ih
    refine ⟨c, ?_, hc⟩
    rw [List.getLast?_append_of_ne_nil _ (List.cons_ne_nil _ _),
      List.getLast?_cons_of_ne_nil hrest.ne_nil, hlast]

lemma isRunChar_or_eq (h : Runs cs) : ∀ c ∈ cs, isRunChar c = true ∨ c = '_' := by
  induction h with
  | last _ hrun => exact fun c hc => .inl (hrun c hc)
  | cons _ hrun _ ih =>
    refine List.forall_mem_append.mpr ⟨fun c hc => .inl (hrun c hc), ?_⟩
    exact List.forall_mem_cons.mpr ⟨.inr rfl, ih⟩

end Runs

/-! ## Joining words -/

/-- Behind a character of a run, joining goes on with the run or starts the next one. -/
lemma runs_joinWords (hc : isRunChar c = true) (hsmall : ∀ d ∈ cs, ¬d.isUpper = true)
    (pending : Bool) : Runs (c :: joinWords pending cs) := by
  induction cs generalizing c pending with
  | nil => exact .last (List.cons_ne_nil _ _) (List.forall_mem_singleton.mpr hc)
  | cons d rest ih =>
    rw [List.forall_mem_cons] at hsmall
    rw [joinWords]
    split_ifs with hword hpending
    · exact .cons_underscore hc (ih (isRunChar_of_isWordChar hword hsmall.1) hsmall.2 false)
    · exact .cons_char hc (ih (isRunChar_of_isWordChar hword hsmall.1) hsmall.2 false)
    · exact ih hc hsmall.2 true

/-- What is left of a text without capitals is nothing or runs. -/
lemma runs_words (hsmall : ∀ d ∈ cs, ¬d.isUpper = true) : words cs = [] ∨ Runs (words cs) := by
  rw [words]
  cases hdrop : cs.dropWhile fun c => !isWordChar c with
  | nil => exact .inl rfl
  | cons d rest =>
    have hword : isWordChar d = true := by
      have hnot := List.head?_dropWhile_not (fun c => !isWordChar c) cs
      rw [hdrop] at hnot
      simpa using hnot
    have hmem : ∀ e ∈ d :: rest, ¬e.isUpper = true := fun e he =>
      hsmall e ((List.dropWhile_sublist _).subset (hdrop ▸ he))
    rw [List.forall_mem_cons] at hmem
    refine .inr ?_
    rw [joinWords, if_pos hword, if_neg Bool.false_ne_true]
    exact runs_joinWords (isRunChar_of_isWordChar hword hmem.1) hmem.2 false

/-- Nothing is left exactly where no character can be used. -/
lemma words_eq_nil_iff : words cs = [] ↔ ∀ c ∈ cs, isWordChar c = false := by
  rw [words]
  constructor
  · intro h
    cases hdrop : cs.dropWhile fun c => !isWordChar c with
    | nil => simpa using List.dropWhile_eq_nil_iff.mp hdrop
    | cons d rest =>
      have hword := List.head?_dropWhile_not (fun c => !isWordChar c) cs
      rw [hdrop] at h hword
      rw [joinWords, if_pos (by simpa using hword), if_neg Bool.false_ne_true] at h
      exact absurd h (List.cons_ne_nil _ _)
  · intro h
    rw [List.dropWhile_eq_nil_iff.mpr (by simpa using h)]
    rfl

/-- Word characters without a gap stay as they are. -/
lemma joinWords_append {word : List Char} (hword : ∀ c ∈ word, isWordChar c = true)
    (rest : List Char) : joinWords false (word ++ rest) = word ++ joinWords false rest := by
  induction word with
  | nil => rfl
  | cons c word ih =>
    rw [List.forall_mem_cons] at hword
    rw [List.cons_append, joinWords, if_pos hword.1, if_neg Bool.false_ne_true, ih hword.2,
      List.cons_append]

lemma joinWords_eq_self {word : List Char} (hword : ∀ c ∈ word, isWordChar c = true) :
    joinWords false word = word := by
  simpa [joinWords] using joinWords_append hword []

/-- Runs are joined already. -/
lemma Runs.joinWords_eq (h : Runs cs) : joinWords false cs = cs := by
  induction h with
  | last _ hrun => exact joinWords_eq_self fun c hc => isWordChar_of_isRunChar (hrun c hc)
  | cons _ hrun hrest ih =>
    obtain ⟨c, more, rfl, hc⟩ := hrest.exists_head
    rw [joinWords, if_pos (isWordChar_of_isRunChar hc), if_neg Bool.false_ne_true] at ih
    have hgap : isWordChar '_' = false := by decide
    rw [joinWords_append fun c hc => isWordChar_of_isRunChar (hrun c hc), joinWords, hgap,
      if_neg Bool.false_ne_true, joinWords, if_pos (isWordChar_of_isRunChar hc), if_pos rfl, ih]

lemma Runs.words_eq (h : Runs cs) : words cs = cs := by
  obtain ⟨c, rest, rfl, hc⟩ := h.exists_head
  rw [words, List.dropWhile_cons_of_neg (by simp [isWordChar_of_isRunChar hc])]
  exact h.joinWords_eq

/-! ## Identifiers -/

namespace IsNormal

lemma of_runs {rest : List Char} (h : Runs (c :: rest)) (hc : c.isLower = true) :
    IsNormal (String.ofList (c :: rest)) where
  runs := by rwa [String.toList_ofList]
  head := ⟨c, by rw [String.toList_ofList]; rfl, hc⟩
  getLast := by
    rw [String.toList_ofList]
    exact h.exists_getLast

lemma ne_empty {name : String} (h : IsNormal name) : name ≠ "" := by
  rintro rfl
  exact h.runs.ne_nil rfl

/-- A digit in front gets a run with a letter before it. -/
lemma guardDigit (h : Runs cs) : IsNormal (String.ofList (Symbol.guardDigit cs)) := by
  obtain ⟨c, rest, rfl, hc⟩ := h.exists_head
  rw [Symbol.guardDigit]
  split_ifs with hdigit
  · exact of_runs (.cons_underscore (by decide) h) (by decide)
  · rw [isRunChar, Bool.or_eq_true] at hc
    exact of_runs h (hc.resolve_right hdigit)

lemma guardDigit_eq {name : String} (h : IsNormal name) :
    Symbol.guardDigit name.toList = name.toList := by
  obtain ⟨c, hhead, hc⟩ := h.head
  obtain ⟨rest, hname⟩ := List.head?_eq_some_iff.mp hhead
  rw [hname, Symbol.guardDigit, if_neg]
  rw [Text.isLower_iff] at hc
  rw [Text.isDigit_iff]
  omega

/-- A number behind a name is one more run. -/
lemma numbered {base : String} (h : IsNormal base) (n : Nat) :
    IsNormal (Allocator.numbered base n) := by
  have hdigits : ∀ c ∈ Nat.toDigits 10 n, isRunChar c = true := fun c hc => by
    rw [isRunChar, Nat.isDigit_of_mem_toDigits (by decide) (by decide) hc, Bool.or_true]
  have hchars : (Allocator.numbered base n).toList = base.toList ++ '_' :: Nat.toDigits 10 n := by
    simp [Allocator.numbered]
  have hruns : Runs (Allocator.numbered base n).toList :=
    hchars ▸ h.runs.append (.last Nat.toDigits_ne_nil hdigits)
  obtain ⟨c, hhead, hc⟩ := h.head
  refine ⟨hruns, ⟨c, ?_, hc⟩, hruns.exists_getLast⟩
  rw [hchars, List.head?_append_of_ne_nil _ h.runs.ne_nil, hhead]

end IsNormal

namespace Lowers

variable {lower : Char → List Char}

lemma identifierBy (h : Lowers lower) (text : String) :
    Symbol.identifierBy lower text = "" ∨ IsNormal (Symbol.identifierBy lower text) := by
  have hsmall : ∀ d ∈ text.toList.flatMap lower, ¬d.isUpper = true := by
    intro d hd
    obtain ⟨c, -, hd⟩ := List.mem_flatMap.mp hd
    exact h.small c d hd
  rw [Symbol.identifierBy]
  rcases runs_words hsmall with hnil | hruns
  · rw [hnil]
    exact .inl rfl
  · exact .inr (.guardDigit hruns)

/-- A normal name is its own identifier. -/
lemma identifierBy_of_isNormal (h : Lowers lower) {name : String} (hname : IsNormal name) :
    Symbol.identifierBy lower name = name := by
  have hfixed : name.toList.flatMap lower = name.toList := by
    have hsingle := fun c hc => h.fixed c (hname.runs.isRunChar_or_eq c hc)
    rw [List.flatMap_congr hsingle]
    exact List.flatMap_singleton' _
  rw [Symbol.identifierBy, hfixed, hname.runs.words_eq, hname.guardDigit_eq, String.ofList_toList]

lemma identifierBy_identifierBy (h : Lowers lower) (text : String) :
    Symbol.identifierBy lower (Symbol.identifierBy lower text) =
      Symbol.identifierBy lower text := by
  rcases h.identifierBy text with hempty | hnormal
  · rw [hempty]
    rfl
  · exact h.identifierBy_of_isNormal hnormal

end Lowers

lemma identifierBy_eq_empty_iff {lower : Char → List Char} {text : String} :
    identifierBy lower text = "" ↔ ∀ c ∈ text.toList.flatMap lower, isWordChar c = false := by
  have hguard : ∀ cs, guardDigit cs = [] ↔ cs = [] := by
    intro cs
    cases cs with
    | nil => rfl
    | cons c rest =>
      rw [guardDigit]
      split_ifs <;> simp
  rw [← words_eq_nil_iff, ← hguard, identifierBy, ← String.toList_inj, String.toList_ofList]
  rfl

lemma lowers_lowerChar : Lowers Text.lowerChar where
  fixed c hc := by
    have hrange : c.toNat < 128 ∧ ¬c.isUpper = true := by
      rw [Text.isUpper_iff]
      rcases hc with hc | rfl
      · rw [isRunChar, Bool.or_eq_true, Text.isLower_iff, Text.isDigit_iff] at hc
        omega
      · decide
    rw [Text.lowerChar, if_pos hrange.1, Char.toLower_eq_of_not_isUpper hrange.2]
  small _ _ hd := Text.not_isUpper_of_mem_lowerChar hd

lemma IsNormal.baseName (preferred fallback : String) :
    IsNormal (Allocator.baseName preferred fallback) := by
  rw [Allocator.baseName]
  split_ifs with hfirst hsecond
  · exact (lowers_lowerChar.identifierBy preferred).resolve_left hfirst
  · exact (lowers_lowerChar.identifierBy fallback).resolve_left hsecond
  · exact .of_runs (.last (List.cons_ne_nil _ _) (List.all_eq_true.mp (by decide))) (by decide)

lemma IsNormal.choose (a : Allocator) (preferred fallback : String) :
    IsNormal (a.choose preferred fallback) := by
  have hbase := IsNormal.baseName preferred fallback
  rcases a.choose_eq preferred fallback with ⟨-, heq⟩ | ⟨-, n, -, heq⟩
  · exact heq ▸ hbase
  · exact heq ▸ hbase.numbered n

/-- **The normal form of identifiers.**  Under every mapping to lower case an identifier is empty,
which it is only where the text has no letter or digit to keep, or normal, and it is its own
identifier.  The mapping in use is such a mapping, and every name that an allocator hands out is
normal. -/
theorem identifier_normalForm :
    (∀ lower, Lowers lower → ∀ text,
      (identifierBy lower text = "" ∨ IsNormal (identifierBy lower text)) ∧
        (identifierBy lower text = "" ↔
          ∀ c ∈ text.toList.flatMap lower, isWordChar c = false) ∧
        identifierBy lower (identifierBy lower text) = identifierBy lower text) ∧
      Lowers Text.lowerChar ∧ identifierBy Text.lowerChar = identifier ∧
      ∀ (a : Allocator) (preferred fallback : String),
        IsNormal (a.allocate preferred fallback).1 := by
  refine ⟨fun lower h text => ?_, lowers_lowerChar, rfl, fun a preferred fallback => ?_⟩
  · exact ⟨h.identifierBy text, identifierBy_eq_empty_iff, h.identifierBy_identifierBy text⟩
  · exact .choose a preferred fallback

end Cartridge.Symbol
