/-!
# Patterns

A pattern is a text in which a star stands for any text, a question mark for any character, and a
bracket for one of several characters.  A character that was quoted stands for itself.
-/

namespace Cartridge.Shell

/-- A character of a pattern, and whether it may have a meaning there. -/
structure Mark where
  char : Char
  active : Bool

/-- A mark that makes a text a pattern. -/
def Mark.isWild (mark : Mark) : Bool :=
  mark.active && (mark.char == '*' || mark.char == '?' || mark.char == '[')

/-- A piece of a pattern. -/
inductive Piece
  | one (c : Char)
  | anyChar
  | anyText
  /-- A character that lies in one of several ranges, or in none of them. -/
  | among (negated : Bool) (ranges : List (Char × Char))

/-- The ranges of a bracket behind its start, and what follows the bracket; none where the bracket
is not closed.  A closing bracket that comes first is a member. -/
def bracketRanges : (room : Nat) → (first : Bool) → List Mark →
    Option (List (Char × Char) × List Mark)
  | 0, _, _ => none
  | _ + 1, _, [] => none
  | room + 1, first, m :: rest =>
    if m.char == ']' && m.active && !first then some ([], rest)
    else
      let (high, after) := match rest with
        | ⟨'-', true⟩ :: high :: after =>
          if high.char == ']' && high.active then (m, rest) else (high, after)
        | rest => (m, rest)
      (bracketRanges room false after).map fun parts => ((m.char, high.char) :: parts.1, parts.2)

/-- The pieces of a pattern, at most `room` of them. -/
def Piece.ofMarks : (room : Nat) → List Mark → List Piece
  | 0, _ => []
  | _ + 1, [] => []
  | room + 1, m :: rest =>
    match m.active, m.char, rest with
    | true, '*', rest => .anyText :: ofMarks room rest
    | true, '?', rest => .anyChar :: ofMarks room rest
    | true, '[', rest =>
      let (negated, inner) := match rest with
        | ⟨'!', true⟩ :: inner => (true, inner)
        | inner => (false, inner)
      match bracketRanges (inner.length + 1) true inner with
      | some (ranges, rest) => .among negated ranges :: ofMarks room rest
      | none => .one '[' :: ofMarks room rest
    | _, c, rest => .one c :: ofMarks room rest

/-- The pieces fit a text from its start to its end. -/
def Piece.fit : List Piece → List Char → Bool
  | [], text => text.isEmpty
  | .anyText :: rest, text => (List.range (text.length + 1)).any fun n => fit rest (text.drop n)
  | .anyChar :: rest, text => !text.isEmpty && fit rest (text.drop 1)
  | .one c :: rest, text => text.head? == some c && fit rest (text.drop 1)
  | .among negated ranges :: rest, text =>
    match text with
    | [] => false
    | c :: _ =>
      (ranges.any fun range => range.1 ≤ c && c ≤ range.2) != negated && fit rest (text.drop 1)

/-- The pattern fits a text. -/
def patternFits (pattern : List Mark) (text : List Char) : Bool :=
  Piece.fit (Piece.ofMarks (pattern.length + 1) pattern) text

/-- A text without the shortest or the longest part at one of its ends that a pattern fits. -/
def trimPattern (pattern : List Mark) (atEnd longest : Bool) (text : List Char) : List Char :=
  let pieces := Piece.ofMarks (pattern.length + 1) pattern
  let sizes := List.range (text.length + 1)
  let sizes := if longest then sizes.reverse else sizes
  let fits (size : Nat) : Bool :=
    Piece.fit pieces (if atEnd then text.drop (text.length - size) else text.take size)
  match sizes.find? fits with
  | none => text
  | some size => if atEnd then text.take (text.length - size) else text.drop size

end Cartridge.Shell
