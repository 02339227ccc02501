import Cartridge.Text.Blank

/-!
# Taking a text apart

Splitting at separators, finding and replacing a part, and the lines of a text.  All of these
walk over the characters once, from left to right.
-/

namespace Cartridge.Text

/-- The pieces of a text between separators, empty ones included. -/
def pieces (isSeparator : Char → Bool) : List Char → List (List Char)
  | [] => [[]]
  | c :: rest =>
    if isSeparator c then [] :: pieces isSeparator rest
    else
      match pieces isSeparator rest with
      | piece :: more => (c :: piece) :: more
      | [] => [[c]]

/-- The pieces of a text between one character. -/
def splitAt (separator : Char) (s : String) : List String :=
  (pieces (· == separator) s.toList).map String.ofList

/-- The parts before and after the first place where `needle` stands. -/
def breakAt? (needle : List Char) : List Char → Option (List Char × List Char)
  | [] => if needle.isEmpty then some ([], []) else none
  | c :: rest =>
    match needle.isPrefixOf? (c :: rest) with
    | some after => some ([], after)
    | none => (breakAt? needle rest).map fun parts => (c :: parts.1, parts.2)

/-- Replaces every place where `needle` stands, from left to right; `skip` characters belong to
a place already replaced. -/
def replaceFrom (needle new : List Char) (skip : Nat) : List Char → List Char
  | [] => []
  | c :: rest =>
    match skip with
    | n + 1 => replaceFrom needle new n rest
    | 0 =>
      if needle.isPrefixOf (c :: rest) then new ++ replaceFrom needle new (needle.length - 1) rest
      else c :: replaceFrom needle new 0 rest

/-- Replaces every place where a non-empty `needle` stands. -/
def replace (needle new s : String) : String :=
  String.ofList (replaceFrom needle.toList new.toList 0 s.toList)

/-- The text starts with the given characters. -/
def startsWith (start s : String) : Bool :=
  start.toList.isPrefixOf s.toList

/-- The text ends with the given characters. -/
def endsWith (final s : String) : Bool :=
  final.toList.isSuffixOf s.toList

/-- The text holds the given characters somewhere. -/
def occursIn (needle s : String) : Bool :=
  (breakAt? needle.toList s.toList).isSome

/-- A line without the carriage return at its end. -/
def dropReturn (line : List Char) : List Char :=
  match line.reverse with
  | '\r' :: rest => rest.reverse
  | _ => line

/-- The lines of a text, without their ends.  The last line counts only when it is not empty. -/
def lines (s : String) : List String :=
  let all := pieces (· == '\n') s.toList
  let ended := all.dropLast.map dropReturn
  let unended := all.getLast?.toList.filter (!·.isEmpty)
  (ended ++ unended).map String.ofList

/-- Texts with a separator between them. -/
def joinWith (separator : String) : List String → String
  | [] => ""
  | [s] => s
  | s :: t :: rest => s ++ separator ++ joinWith separator (t :: rest)

end Cartridge.Text
