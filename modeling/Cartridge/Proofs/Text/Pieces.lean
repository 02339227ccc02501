import Mathlib.Tactic.Common
import Cartridge.Text.Pieces

/-!
# Pieces of a text

Texts that are joined by a separator which stands in none of them can be taken apart again
(`pieces_joinWith`), so the joined text tells them (`joinWith_inj`).
-/

namespace Cartridge.Text

variable {isSeparator : Char → Bool}

lemma pieces_eq_splitOnP (isSeparator : Char → Bool) (cs : List Char) :
    pieces isSeparator cs = cs.splitOnP isSeparator := by
  induction cs with
  | nil => rfl
  | cons c rest ih =>
    rw [pieces, List.splitOnP_cons_eq_if_modifyHead, ih]
    split_ifs with hc
    · rfl
    · cases hrest : rest.splitOnP isSeparator with
      | nil => exact absurd hrest (List.splitOnP_ne_nil isSeparator rest)
      | cons piece more => rfl

variable {c : Char} {texts : List String}

lemma pieces_append_cons (hc : isSeparator c = true) (front rest : List Char) :
    pieces isSeparator (front ++ c :: rest) =
      pieces isSeparator front ++ pieces isSeparator rest := by
  simp only [pieces_eq_splitOnP]
  exact List.splitOnP_append_cons front rest hc

lemma pieces_append_separator (separator : Char) (front rest : List Char) :
    pieces (· == separator) (front ++ separator :: rest) =
      pieces (· == separator) front ++ pieces (· == separator) rest :=
  pieces_append_cons (by simp) front rest

lemma pieces_eq_singleton {cs : List Char} (h : ∀ c ∈ cs, isSeparator c = false) :
    pieces isSeparator cs = [cs] := by
  rw [pieces_eq_splitOnP]
  exact List.splitOnP_eq_singleton h

/-- Pieces are made of the characters of the text that are no separators. -/
lemma mem_of_mem_pieces {cs piece : List Char} (h : piece ∈ pieces isSeparator cs)
    (hc : c ∈ piece) : c ∈ cs ∧ isSeparator c = false := by
  induction cs generalizing piece with
  | nil =>
    rw [pieces, List.mem_singleton] at h
    subst h
    exact absurd hc List.not_mem_nil
  | cons d rest ih =>
    have hrest : ∀ piece ∈ pieces isSeparator rest, c ∈ piece →
        c ∈ d :: rest ∧ isSeparator c = false :=
      fun piece hpiece hc => (ih hpiece hc).imp_left (List.mem_cons_of_mem d)
    rw [pieces] at h
    split_ifs at h with hd
    · rcases List.mem_cons.mp h with rfl | h
      · exact absurd hc List.not_mem_nil
      · exact hrest piece h hc
    · cases hpieces : pieces isSeparator rest with
      | nil =>
        rw [hpieces, List.mem_singleton] at h
        subst h
        rw [List.mem_singleton.mp hc]
        exact ⟨List.mem_cons_self, by simpa using hd⟩
      | cons first more =>
        rw [hpieces] at h hrest
        rcases List.mem_cons.mp h with rfl | h
        · rcases List.mem_cons.mp hc with rfl | hc
          · exact ⟨List.mem_cons_self, by simpa using hd⟩
          · exact hrest first List.mem_cons_self hc
        · exact hrest piece (List.mem_cons_of_mem _ h) hc

/-- Joined texts are made of their characters and those of the separator. -/
lemma mem_of_mem_joinWith {separator : String} (h : c ∈ (joinWith separator texts).toList) :
    c ∈ separator.toList ∨ ∃ text ∈ texts, c ∈ text.toList := by
  fun_induction joinWith separator texts with
  | case1 => exact absurd h List.not_mem_nil
  | case2 text => exact .inr ⟨text, List.mem_singleton_self _, h⟩
  | case3 text second rest ih =>
    rw [String.toList_append, String.toList_append, List.mem_append, List.mem_append] at h
    rcases h with (h | h) | h
    · exact .inr ⟨text, List.mem_cons_self, h⟩
    · exact .inl h
    · rcases ih h with heq | ⟨other, hother, hc⟩
      · exact .inl heq
      · exact .inr ⟨other, List.mem_cons_of_mem _ hother, hc⟩

lemma pieces_joinWith {separator : Char} (hne : texts ≠ [])
    (h : ∀ text ∈ texts, separator ∉ text.toList) :
    pieces (· == separator) (joinWith (String.ofList [separator]) texts).toList =
      texts.map String.toList := by
  have hsingle : ∀ text : String, separator ∉ text.toList →
      pieces (· == separator) text.toList = [text.toList] := fun text htext =>
    pieces_eq_singleton fun c hc => beq_eq_false_iff_ne.mpr fun heq => htext (heq ▸ hc)
  fun_induction joinWith (String.ofList [separator]) texts with
  | case1 => exact absurd rfl hne
  | case2 text => exact hsingle text (h text (List.mem_singleton_self _))
  | case3 text second rest ih =>
    rw [List.forall_mem_cons] at h
    rw [String.toList_append, String.toList_append, String.toList_ofList, List.append_assoc,
      List.singleton_append, pieces_append_separator, hsingle text h.1,
      ih (List.cons_ne_nil _ _) h.2]
    rfl

/-- A joined text tells the texts, if the separator stands in none of them. -/
lemma joinWith_inj {separator : Char} {others : List String} (hne : texts ≠ []) (hne' : others ≠ [])
    (h : ∀ text ∈ texts, separator ∉ text.toList) (h' : ∀ text ∈ others, separator ∉ text.toList)
    (heq : joinWith (String.ofList [separator]) texts =
      joinWith (String.ofList [separator]) others) :
    texts = others := by
  have hpieces := pieces_joinWith hne h
  rw [heq, pieces_joinWith hne' h'] at hpieces
  exact ((List.map_inj_right fun _ _ hchars => String.toList_injective hchars).mp hpieces).symm

/-- Nothing is replaced where the character does not stand. -/
lemma replace_eq_self {new s : String} (h : c ∉ s.toList) :
    replace (String.ofList [c]) new s = s := by
  have hchars : ∀ cs : List Char, c ∉ cs → replaceFrom [c] new.toList 0 cs = cs := by
    intro cs hcs
    induction cs with
    | nil => rfl
    | cons d rest ih =>
      rw [List.mem_cons, not_or] at hcs
      rw [replaceFrom, if_neg (by simpa using hcs.1), ih hcs.2]
  rw [replace, String.toList_ofList, hchars _ h, String.ofList_toList]

/-- What does not hold a character ends before it or goes past it. -/
lemma isPrefix_append_cons_iff {token before after : List Char} (hc : c ∉ token) :
    token <+: before ++ c :: after ↔ token <+: before := by
  refine ⟨fun htoken => ?_, fun htoken => htoken.trans (List.prefix_append _ _)⟩
  rcases Nat.lt_or_ge before.length token.length with hlong | hshort
  · have hpast : before ++ [c] <+: token :=
      List.prefix_of_prefix_length_le ⟨after, by simp⟩ htoken (by simp; omega)
    exact absurd (hpast.subset (by simp)) hc
  · exact List.prefix_of_prefix_length_le htoken (List.prefix_append _ _) hshort

end Cartridge.Text
