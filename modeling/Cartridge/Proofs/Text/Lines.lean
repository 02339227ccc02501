import Mathlib.Data.List.Basic
import Cartridge.Proofs.Text.Pieces

/-!
# Lines of a text

A text that was written line by line is read back as the same lines (`lines_join`); splitting it at
the line ends gives them back exactly when none of them has a line end in it (`splitAt_join_iff`).
A line that was put together around a mark is taken apart at the mark (`breakAt?_append`).
-/

namespace Cartridge.Text

/-- A text that can be a line: nothing in it ends a line. -/
structure IsLine (text : String) : Prop where
  newline : '\n' ∉ text.toList
  return_ : '\r' ∉ text.toList

variable {c : Char} {texts : List String}

lemma not_mem_toList_append {first second : String} :
    c ∉ (first ++ second).toList ↔ c ∉ first.toList ∧ c ∉ second.toList := by
  rw [String.toList_append, List.mem_append, not_or]

lemma IsLine.append {first second : String} (h : IsLine first) (h' : IsLine second) :
    IsLine (first ++ second) where
  newline := not_mem_toList_append.mpr ⟨h.newline, h'.newline⟩
  return_ := not_mem_toList_append.mpr ⟨h.return_, h'.return_⟩

lemma dropReturn_eq_self {cs : List Char} (h : '\r' ∉ cs) : dropReturn cs = cs := by
  unfold dropReturn
  split
  · rename_i rest hrest
    have hmem : '\r' ∈ cs.reverse := hrest ▸ List.mem_cons_self
    exact absurd (List.mem_reverse.mp hmem) h
  · rfl

/-- The pieces of lines with their ends, and what follows the last end. -/
lemma pieces_join (texts : List String) :
    pieces (· == '\n') (String.join (texts.map (· ++ "\n"))).toList =
      (texts.flatMap fun text => pieces (· == '\n') text.toList) ++ [[]] := by
  induction texts with
  | nil => rfl
  | cons text rest ih =>
    have hnewline : "\n".toList = ['\n'] := rfl
    rw [List.map_cons, String.join_cons, String.toList_append, String.toList_append, hnewline,
      List.append_assoc, List.singleton_append, pieces_append_separator, ih, List.flatMap_cons,
      List.append_assoc]

lemma pieces_of_newline_not_mem {text : String} (h : '\n' ∉ text.toList) :
    pieces (· == '\n') text.toList = [text.toList] :=
  pieces_eq_singleton fun _ hc => beq_eq_false_iff_ne.mpr fun heq => h (heq ▸ hc)

lemma flatMap_pieces (h : ∀ text ∈ texts, '\n' ∉ text.toList) :
    (texts.flatMap fun text => pieces (· == '\n') text.toList) = texts.map String.toList := by
  rw [List.map_eq_flatMap]
  exact List.flatMap_congr fun text htext => pieces_of_newline_not_mem (h text htext)

/-- What is written line by line is read back so. -/
lemma lines_join (h : ∀ text ∈ texts, IsLine text) :
    lines (String.join (texts.map (· ++ "\n"))) = texts := by
  have hreturns : (texts.map String.toList).map dropReturn = texts.map String.toList := by
    rw [List.map_map]
    exact List.map_congr_left fun text htext => dropReturn_eq_self (h text htext).return_
  have hnewlines : ∀ text ∈ texts, '\n' ∉ text.toList := fun text htext => (h text htext).newline
  rw [lines, pieces_join, flatMap_pieces hnewlines, List.dropLast_concat, List.getLast?_concat,
    hreturns, List.map_append, List.map_map]
  simp

/-- Splitting at the line ends splits each line that was written. -/
lemma splitAt_join (texts : List String) :
    splitAt '\n' (String.join (texts.map (· ++ "\n"))) =
      texts.flatMap (splitAt '\n') ++ [""] := by
  rw [splitAt, pieces_join, List.map_append, List.map_flatMap]
  rfl

/-- Splitting at the line ends gives back what was written line by line, and nothing behind the
last end, exactly when no line has a line end in it. -/
lemma splitAt_join_iff :
    splitAt '\n' (String.join (texts.map (· ++ "\n"))) = texts ++ [""] ↔
      ∀ text ∈ texts, '\n' ∉ text.toList := by
  rw [splitAt_join, List.append_cancel_right_eq]
  constructor
  · intro hsplit text htext hnewline
    rw [← hsplit] at htext
    obtain ⟨line, -, hline⟩ := List.mem_flatMap.mp htext
    obtain ⟨piece, hpiece, rfl⟩ := List.mem_map.mp hline
    rw [String.toList_ofList] at hnewline
    have hnot := (mem_of_mem_pieces hpiece hnewline).2
    exact absurd hnot (by decide)
  · intro hnewlines
    have hsingle : ∀ text ∈ texts, splitAt '\n' text = [text] := by
      intro text htext
      rw [splitAt, pieces_of_newline_not_mem (hnewlines text htext), List.map_singleton,
        String.ofList_toList]
    rw [List.flatMap_congr hsingle]
    exact List.flatMap_singleton' texts

/-- A single line, with or without its end. -/
lemma lines_single {text : String} (h : IsLine text) (hne : text ≠ "") :
    lines text = [text] ∧ lines (text ++ "\n") = [text] := by
  constructor
  · have hkept : [text.toList].filter (!·.isEmpty) = [text.toList] :=
      List.filter_eq_self.mpr (by simpa using hne)
    rw [lines, pieces_of_newline_not_mem h.newline, List.getLast?_singleton, Option.toList_some,
      hkept]
    simp
  · have hjoin := lines_join (List.forall_mem_singleton.mpr h)
    rwa [List.map_singleton, String.join_cons, String.join_nil, String.append_empty] at hjoin

lemma isPrefixOf?_cons_of_ne {d : Char} (h : c ≠ d) (mark cs : List Char) :
    (c :: mark).isPrefixOf? (d :: cs) = none := by
  rw [List.isPrefixOf?, if_neg (by simpa using h)]

/-- A text is taken apart where the mark stands first. -/
lemma breakAt?_append {mark front : List Char} (h : c ∉ front) (rest : List Char) :
    breakAt? (c :: mark) (front ++ (c :: mark ++ rest)) = some (front, rest) := by
  induction front with
  | nil =>
    have hhere : (c :: mark).isPrefixOf? (c :: (mark ++ rest)) = some rest :=
      List.isPrefixOf?_eq_some_iff_append_eq.mpr rfl
    rw [List.nil_append, List.cons_append, breakAt?, hhere]
  | cons d front ih =>
    rw [List.mem_cons, not_or] at h
    rw [List.cons_append, breakAt?, isPrefixOf?_cons_of_ne h.1, ih h.2]
    rfl

end Cartridge.Text
