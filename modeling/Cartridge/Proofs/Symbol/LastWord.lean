import Mathlib.Data.List.DropRight
import Cartridge.Proofs.Symbol.Families

/-!
# The last word of a name

A name is made of words with underscores between them, and its last word tells where it comes from.
A companion ends like its suffix (`lastWord_append`), an alternative ends with its number
(`lastWord_numbered`).  A text that ends with an underscore and a word becomes a name that ends with
this word, whatever stands before it (`lastWord_identifier`); so the same holds of the name that is
handed out for such a text, unless a number is put behind it (`Demand.Found.lastWord`).
-/

namespace Cartridge.Symbol

/-- The characters behind the last underscore. -/
def lastWord (cs : List Char) : List Char :=
  cs.rtakeWhile (· ≠ '_')

lemma lastWord_eq_self {word : List Char} (h : '_' ∉ word) : lastWord word = word := by
  rw [lastWord, List.rtakeWhile_eq_self_iff]
  intro c hc
  have hne : c ≠ '_' := fun heq => h (heq ▸ hc)
  simpa using hne

/-- What stands before an underscore does not matter. -/
lemma lastWord_append_cons (front rest : List Char) :
    lastWord (front ++ '_' :: rest) = lastWord rest := by
  rw [lastWord, lastWord, List.rtakeWhile, List.rtakeWhile, List.reverse_append, List.reverse_cons,
    List.append_assoc, List.takeWhile_append]
  split_ifs with hall
  · -- the rest has no underscore, and the one before it stops the word
    have hstop : (['_'] ++ front.reverse).takeWhile (· ≠ '_') = [] := rfl
    have hrest := (List.takeWhile_prefix (· ≠ '_')).eq_of_length hall
    rw [hstop, List.append_nil, hrest]
  · rfl

lemma lastWord_append (front rest : String) :
    lastWord (front ++ "_" ++ rest).toList = lastWord rest.toList := by
  rw [String.toList_append, String.toList_append, List.append_assoc]
  exact lastWord_append_cons front.toList rest.toList

/-! ## Numbers -/

lemma lastWord_numbered (base : String) (n : Nat) :
    lastWord (Allocator.numbered base n).toList = Nat.toDigits 10 n := by
  rw [Allocator.numbered, lastWord_append, String.toList_ofList]
  apply lastWord_eq_self
  intro hmem
  have hdigit : '_'.isDigit = true := Nat.isDigit_of_mem_toDigits (by decide) (by decide) hmem
  exact absurd hdigit (by decide)

/-- A name with a number tells both. -/
lemma numbered_inj {base other : String} {m n : Nat}
    (h : Allocator.numbered base m = Allocator.numbered other n) : base = other ∧ m = n := by
  have hnumber : m = n := by
    apply Allocator.eq_of_toDigits_eq
    rw [← lastWord_numbered base m, h, lastWord_numbered]
  refine ⟨?_, hnumber⟩
  subst hnumber
  have hchars := congrArg String.toList h
  simp only [Allocator.numbered, String.toList_append] at hchars
  exact String.toList_injective (List.append_cancel_right (List.append_cancel_right hchars))

/-! ## Identifiers -/

/-- A word in lower case. -/
structure IsLowerWord (word : List Char) : Prop where
  ne_nil : word ≠ []
  isWordChar : word.all isWordChar = true
  lower : word.flatMap Text.lowerChar = word

namespace IsLowerWord

variable {word : List Char}

lemma joinWords_append (h : IsLowerWord word) (pending : Bool) (cs : List Char) :
    joinWords pending (cs ++ '_' :: word) = joinWords pending cs ++ '_' :: word := by
  induction cs generalizing pending with
  | nil =>
    obtain ⟨c, rest, rfl⟩ := List.exists_cons_of_ne_nil h.ne_nil
    have hword := h.isWordChar
    rw [List.all_cons, Bool.and_eq_true] at hword
    show joinWords pending ('_' :: c :: rest) = '_' :: c :: rest
    have hgap : Symbol.isWordChar '_' = false := by decide
    rw [joinWords, hgap, if_neg Bool.false_ne_true, joinWords, if_pos hword.1, if_pos rfl,
      joinWords_eq_self (List.all_eq_true.mp hword.2)]
  | cons c rest ih =>
    rw [List.cons_append, joinWords, joinWords, ih, ih]
    split_ifs <;> rfl

lemma lastWord_eq (h : IsLowerWord word) : lastWord word = word := by
  apply lastWord_eq_self
  intro hmem
  have hgap : Symbol.isWordChar '_' = true := List.all_eq_true.mp h.isWordChar '_' hmem
  exact absurd hgap (by decide)

lemma lastWord_words (h : IsLowerWord word) (cs : List Char) :
    lastWord (words (cs ++ '_' :: word)) = word := by
  rw [words, List.dropWhile_append]
  split_ifs with hempty
  · -- nothing usable stands before the word
    obtain ⟨c, rest, rfl⟩ := List.exists_cons_of_ne_nil h.ne_nil
    have hfirst : Symbol.isWordChar c = true :=
      List.all_eq_true.mp h.isWordChar c List.mem_cons_self
    rw [List.dropWhile_cons_of_pos (by decide), List.dropWhile_cons_of_neg (by simp [hfirst]),
      joinWords_eq_self (List.all_eq_true.mp h.isWordChar), h.lastWord_eq]
  · rw [h.joinWords_append, lastWord_append_cons, h.lastWord_eq]

end IsLowerWord

lemma lastWord_guardDigit (cs : List Char) : lastWord (guardDigit cs) = lastWord cs := by
  cases cs with
  | nil => rfl
  | cons c rest =>
    rw [guardDigit]
    split_ifs
    · exact lastWord_append_cons ['s'] (c :: rest)
    · rfl

lemma lastWord_identifier {word : String} (h : IsLowerWord word.toList) (text : String) :
    lastWord (identifier (text ++ "_" ++ word)).toList = word.toList := by
  have hchars : (text ++ "_" ++ word).toList.flatMap Text.lowerChar =
      text.toList.flatMap Text.lowerChar ++ '_' :: word.toList := by
    rw [String.toList_append, String.toList_append, List.append_assoc, List.flatMap_append,
      List.flatMap_append, h.lower]
    rfl
  rw [identifier, String.toList_ofList, identifierChars, lastWord_guardDigit, hchars,
    h.lastWord_words]

lemma lastWord_baseName {word : String} (h : IsLowerWord word.toList) (text fallback : String) :
    lastWord (Allocator.baseName (text ++ "_" ++ word) fallback).toList = word.toList := by
  have hword := lastWord_identifier h text
  have hne : identifier (text ++ "_" ++ word) ≠ "" := by
    intro hempty
    rw [hempty] at hword
    exact h.ne_nil hword.symm
  rw [Allocator.baseName, if_pos hne, hword]

/-- The name that is handed out for a text ends with the last word of the text, or it is an
alternative of such a name. -/
lemma Demand.Found.lastWord {a : Allocator} {text word fallback name : String}
    (hword : IsLowerWord word.toList)
    (h : (Demand.object (text ++ "_" ++ word) fallback).Found a name) :
    lastWord name.toList = word.toList ∨
      ∃ base n, name = Allocator.numbered base n ∧ lastWord base.toList = word.toList := by
  rcases h with ⟨-, rfl⟩ | ⟨-, n, -, rfl⟩
  · exact .inl (lastWord_baseName hword text fallback)
  · exact .inr ⟨_, n, rfl, lastWord_baseName hword text fallback⟩

end Cartridge.Symbol
