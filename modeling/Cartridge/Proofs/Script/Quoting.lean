import Mathlib.Algebra.Group.Even
import Mathlib.Algebra.Ring.Parity
import Cartridge.Proofs.Json.Order
import Cartridge.Proofs.Script.Outline
import Cartridge.Proofs.Script.Unquoted

/-!
# Strings of a listing are read back

A string stands in a listing between quotes, on a line of its own, with backslashes, quotes and line
ends escaped.  Escaping character by character is the same as replacing backslashes first, then
quotes, then line ends (`escaped_eq_replace`); in another order the backslashes of the escapes would
be escaped again.  `unescape?` undoes it (`unescape?_escaped`), and a quote in an escaped text is
known by the odd number of backslashes in front of it (`odd_trailing_of_flatMap`).

So the lines of an event before its branches tell its command and its arguments
(`event_lines_read_back`).
-/

namespace Cartridge.Script

open Cartridge.Json (Fields)

/-! ## Escapes -/

/-- Undoes the escapes of a text; none for a text in which something is left unescaped. -/
def unescape? : List Char → Option (List Char)
  | [] => some []
  | '\\' :: '\\' :: rest => (unescape? rest).map ('\\' :: ·)
  | '\\' :: '"' :: rest => (unescape? rest).map ('"' :: ·)
  | '\\' :: 'n' :: rest => (unescape? rest).map ('\n' :: ·)
  | c :: rest =>
    if c = '\\' ∨ c = '"' ∨ c = '\n' then none else (unescape? rest).map (c :: ·)

/-- The number of backslashes at the end of a text. -/
def trailing (cs : List Char) : Nat :=
  (cs.reverse.takeWhile (· == '\\')).length

/-- Escaped texts are told apart, stand on one line, and have no quote without a backslash in front
of it that is not itself escaped. -/
structure IsEscaping (escape : String → String) : Prop where
  injective : Function.Injective escape
  newline : ∀ text, '\n' ∉ (escape text).toList
  quote : ∀ text before after, (escape text).toList = before ++ '"' :: after → Odd (trailing before)

variable {c : Char}

/-- The four ways in which a character is escaped. -/
lemma escapeQuoted_cases (c : Char) :
    c = '\\' ∧ escapeQuoted c = ['\\', '\\'] ∨ c = '"' ∧ escapeQuoted c = ['\\', '"'] ∨
      c = '\n' ∧ escapeQuoted c = ['\\', 'n'] ∨
      (c ≠ '\\' ∧ c ≠ '"' ∧ c ≠ '\n') ∧ escapeQuoted c = [c] := by
  simp only [escapeQuoted, beq_iff_eq]
  split_ifs with hbackslash hquote hnewline
  · exact .inl ⟨hbackslash, rfl⟩
  · exact .inr (.inl ⟨hquote, rfl⟩)
  · exact .inr (.inr (.inl ⟨hnewline, rfl⟩))
  · exact .inr (.inr (.inr ⟨⟨hbackslash, hquote, hnewline⟩, rfl⟩))

lemma unescape?_flatMap (cs : List Char) : unescape? (cs.flatMap escapeQuoted) = some cs := by
  induction cs with
  | nil => rfl
  | cons c rest ih =>
    rw [List.flatMap_cons]
    rcases escapeQuoted_cases c with ⟨rfl, heq⟩ | ⟨rfl, heq⟩ | ⟨rfl, heq⟩ | ⟨hplain, heq⟩
    · simp [heq, unescape?, ih]
    · simp [heq, unescape?, ih]
    · simp [heq, unescape?, ih]
    · rw [heq, List.singleton_append, unescape?, if_neg (by simpa using hplain), ih]
      · rfl
      all_goals exact fun _ hc => absurd hc hplain.1

lemma unescape?_escaped (text : String) : unescape? (escaped text).toList = some text.toList := by
  rw [escaped, String.toList_ofList, unescape?_flatMap]

/-! ## Replacements -/

lemma replaceFrom_singleton (new cs : List Char) :
    Text.replaceFrom [c] new 0 cs = cs.flatMap fun d => if d = c then new else [d] := by
  induction cs with
  | nil => rfl
  | cons d rest ih =>
    rw [Text.replaceFrom, List.flatMap_cons]
    by_cases heq : d = c
    · simpa [heq] using ih
    · simpa [heq, Ne.symm heq] using ih

/-- Escaping is the replacement of backslashes, of quotes and of line ends, in this order. -/
lemma escaped_eq_replace (text : String) :
    escaped text = Text.replace "\n" "\\n"
      (Text.replace "\"" "\\\"" (Text.replace "\\" "\\\\" text)) := by
  have hbackslash : "\\".toList = ['\\'] := rfl
  have hquote : "\"".toList = ['"'] := rfl
  have hnewline : "\n".toList = ['\n'] := rfl
  simp only [Text.replace, String.toList_ofList, hbackslash, hquote, hnewline,
    replaceFrom_singleton, List.flatMap_assoc, escaped]
  congr 1
  refine List.flatMap_congr fun c _ => ?_
  rcases escapeQuoted_cases c with ⟨rfl, heq⟩ | ⟨rfl, heq⟩ | ⟨rfl, heq⟩ | ⟨hplain, heq⟩
  · rw [heq]; rfl
  · rw [heq]; rfl
  · rw [heq]; rfl
  · simp [heq, hplain]

/-! ## Quotes -/

/-- Backslashes in pairs do not change whether their number is odd. -/
lemma odd_trailing_append {front : List Char} (h : Even (trailing front)) (cs : List Char) :
    Odd (trailing (front ++ cs)) ↔ Odd (trailing cs) := by
  rw [trailing, trailing, List.reverse_append, List.takeWhile_append]
  split_ifs with hall
  · rw [List.length_append, hall, ← List.length_reverse, Nat.odd_add]
    exact iff_of_eq (by simp [trailing] at h; simp [h])
  · rfl

/-- An odd number of backslashes stands before each quote of an escaped text. -/
lemma odd_trailing_of_flatMap {cs before after : List Char}
    (h : cs.flatMap escapeQuoted = before ++ '"' :: after) : Odd (trailing before) := by
  induction cs generalizing before with
  | nil => simp at h
  | cons c rest ih =>
    rw [List.flatMap_cons] at h
    rcases List.append_eq_append_iff.mp h with ⟨front, hbefore, hrest⟩ | ⟨behind, hescape, hbehind⟩
    · -- the quote stands behind the first character
      have heven : Even (trailing (escapeQuoted c)) := by
        rcases escapeQuoted_cases c with ⟨-, heq⟩ | ⟨-, heq⟩ | ⟨-, heq⟩ | ⟨hplain, heq⟩
        · rw [heq]; decide
        · rw [heq]; decide
        · rw [heq]; decide
        · simp [heq, trailing, hplain.1]
      rw [hbefore, odd_trailing_append heven]
      exact ih hrest
    · cases behind with
      | nil =>
        have hodd : Odd (trailing []) := ih hbehind.symm
        exact absurd hodd (by decide)
      | cons d more =>
        obtain rfl : '"' = d := (List.cons.inj hbehind).1
        -- only an escaped quote has a quote in it, behind one backslash
        rcases escapeQuoted_cases c with ⟨-, heq⟩ | ⟨-, heq⟩ | ⟨-, heq⟩ | ⟨hplain, heq⟩
        all_goals rw [heq] at hescape
        · simp [List.cons_eq_append_iff] at hescape
        · obtain ⟨rfl, -⟩ : before = ['\\'] ∧ more = [] := by
            simpa [List.cons_eq_append_iff] using hescape
          decide
        · simp [List.cons_eq_append_iff] at hescape
        · obtain ⟨-, hquote, -⟩ : before = [] ∧ '"' = c ∧ more = [] := by
            simpa [List.cons_eq_append_iff] using hescape
          exact absurd hquote.symm hplain.2.1

lemma isEscaping_escaped : IsEscaping escaped where
  injective text other heq := by
    have hchars := unescape?_escaped text
    rw [heq, unescape?_escaped, Option.some.injEq] at hchars
    exact (String.toList_injective hchars).symm
  newline := newline_not_mem_escaped
  quote text before after h := by
    rw [escaped, String.toList_ofList] at h
    exact odd_trailing_of_flatMap h

/-! ## Lines -/

/-- The text that the line of a string holds. -/
def readString? (line : String) : Option String := do
  let quoted ← (indent ++ ".asciz \"").toList.isPrefixOf? line.toList
  if quoted.getLast? = some '"' then (unescape? quoted.dropLast).map String.ofList else none

lemma readString?_text (text : String) :
    readString? (Instruction.string text).text = some text := by
  have hline : (Instruction.string text).text.toList =
      (indent ++ ".asciz \"").toList ++ ((escaped text).toList ++ ['"']) := by
    simp [Instruction.text]
  rw [readString?, List.isPrefixOf?_eq_some_iff_append_eq.mpr hline.symm]
  simp [unescape?_escaped]

/-! ## Events -/

lemma lowerBranches_eq_nil_iff {scope : Scope} {call : CallHandler}
    {branches : List (String × List Event)} {session : Session} :
    (lowerBranches scope call branches session).1 = [] ↔ branches = [] := by
  cases branches <;> simp [lowerBranches]

/-- Behind the block of an event its branches begin, if it has some. -/
lemma exists_layoutStep_event (drawn : Nat) (command : String) (args : List String)
    (branches : List (String × List Code)) :
    ∃ rest, (layoutStep drawn (.event command args branches)).1 = eventBlock command args ++ rest ∧
      (rest = [] ↔ branches = []) ∧
      ∀ line ∈ rest.head?, ∃ target name, line = .branch target name := by
  cases branches with
  | nil => exact ⟨[], by simp [layoutStep], by simp, by simp⟩
  | cons branch rest =>
    simp only [layoutStep, List.append_assoc]
    exact ⟨_, rfl, by simp [branchTable], by simp [branchTable]⟩

/-- **Events are read back.**  The lines of an event for the engine before its branches are, behind
the remark with its command, the number of its strings and so many strings.  Each of them is one
line, and read back they are the command and, in the order of their names, the arguments whose names
do not start with two underscores.  Texts are escaped by three replacements in turn, which loses
nothing. -/
theorem event_lines_read_back (scope : Scope) (call : CallHandler) (session : Session)
    (drawn : Nat) (event : Event) (hengine : event.effect = .engine)
    (hargs : Fields.Ordered event.args) :
    let shown := event.args.filter fun arg => !Text.startsWith "__" arg.1
    let given := event.command :: shown.map fun arg =>
      arg.1 ++ "=" ++ argumentText scope event.command arg.1 arg.2
    let code := (lowerEvent scope call event session).1
    (∃ rest, (layout drawn code).1 =
        .comment event.command :: .event given.length :: (given.map .string ++ rest) ∧
        (rest = [] ↔ event.branches = []) ∧
        ∀ line ∈ rest.head?, ∃ target name, line = .branch target name) ∧
      (∀ text ∈ given, '\n' ∉ (Instruction.string text).text.toList ∧
        readString? (Instruction.string text).text = some text) ∧
      (shown.map (·.1)).Pairwise (· < ·) ∧
      IsEscaping escaped ∧
      ∀ text, escaped text = Text.replace "\n" "\\n"
        (Text.replace "\"" "\\\"" (Text.replace "\\" "\\\\" text)) := by
  intro shown given code
  refine ⟨?_, fun text _ => ⟨?_, readString?_text text⟩, ?_, isEscaping_escaped,
    escaped_eq_replace⟩
  · obtain ⟨rest, hlines, hbranches, hhead⟩ := exists_layoutStep_event drawn event.command
      (engineArgs scope event.command event.args)
      (lowerBranches scope call event.branches session).1
    have hcode : code = [.event event.command (engineArgs scope event.command event.args)
        (lowerBranches scope call event.branches session).1] := by
      simp only [code, lowerEvent_eq, hengine]
    refine ⟨rest, ?_, hbranches.trans lowerBranches_eq_nil_iff, hhead⟩
    rw [hcode, layout_singleton, hlines]
    simp [eventBlock, engineArgs, given, shown]
  · exact (newline_not_mem_text_iff (by simp)).mpr (by simp [Instruction.unquoted?])
  · exact List.Pairwise.sublist (List.filter_sublist.map _) hargs

/-- An event that says something with a quoted word and a line end, and with the same written
out. -/
def sayingEvent : Event where
  command := "EVENT_TEXT"
  args := [("__collapse", .bool true), ("text", .string "\"a\"\n\\\"a\\\"\\n")]

/-- Both texts are told apart in the line of the string. -/
theorem event_lines_read_back_saying :
    sayingEvent.effect = .engine ∧ Fields.Ordered sayingEvent.args ∧
      readString? (Instruction.string "text=\"a\"\n\\\"a\\\"\\n").text =
        some "text=\"a\"\n\\\"a\\\"\\n" := by
  have hengine : sayingEvent.effect = .engine := by decide
  have hargs : Fields.Ordered sayingEvent.args := by decide
  refine ⟨hengine, hargs, ?_⟩
  have hlines := event_lines_read_back ⟨.builtin, [], fun _ _ => none, []⟩
    (fun _ session => ([], session)) { symbols := .empty } 0 sayingEvent hengine hargs
  exact (hlines.2.1 _ (by decide)).2

end Cartridge.Script
