import Cartridge.Json.Value

/-!
# Writing JSON

`Value.compact` writes no blanks; `Value.pretty` writes one item a line, indented by two blanks a
level, and an empty array or object without a break.  A string escapes the quote, the backslash
and the control characters below the blank, and nothing else.
-/

namespace Cartridge.Json

/-- A hexadecimal digit in lower case. -/
def hexDigit (n : Nat) : Char :=
  if n < 10 then Char.ofNat (48 + n) else Char.ofNat (87 + n)

/-- A character of a text as it stands between quotes. -/
def escapeChar (c : Char) : List Char :=
  if c == '"' then ['\\', '"']
  else if c == '\\' then ['\\', '\\']
  else if c == '\n' then ['\\', 'n']
  else if c == '\r' then ['\\', 'r']
  else if c == '\t' then ['\\', 't']
  else if c.toNat == 0x08 then ['\\', 'b']
  else if c.toNat == 0x0C then ['\\', 'f']
  else if c.toNat < 0x20 then
    ['\\', 'u', '0', '0', hexDigit (c.toNat / 16), hexDigit (c.toNat % 16)]
  else [c]

/-- A text between quotes. -/
def quote (s : String) : String :=
  String.ofList ('"' :: (s.toList.flatMap escapeChar ++ ['"']))

mutual

/-- A value without blanks. -/
def Value.compact : Value → String
  | .null => "null"
  | .bool b => if b then "true" else "false"
  | .number n => n.text
  | .string s => quote s
  | .array items => "[" ++ Value.compactItems items ++ "]"
  | .object fields => "\x7b" ++ Value.compactFields fields ++ "\x7d"

/-- The items of an array without blanks. -/
def Value.compactItems : List Value → String
  | [] => ""
  | [v] => v.compact
  | v :: w :: rest => v.compact ++ "," ++ Value.compactItems (w :: rest)

/-- The fields of an object, separated by commas. -/
def Value.compactFields : List (String × Value) → String
  | [] => ""
  | [(k, v)] => quote k ++ ":" ++ v.compact
  | (k, v) :: w :: rest => quote k ++ ":" ++ v.compact ++ "," ++ Value.compactFields (w :: rest)

end

/-- Blanks in front of a line of the given level. -/
def indentation (level : Nat) : String :=
  String.ofList (List.replicate (2 * level) ' ')

mutual

/-- A value with one item a line, at a level of indentation. -/
def Value.prettyAt (level : Nat) : Value → String
  | .null => "null"
  | .bool b => if b then "true" else "false"
  | .number n => n.text
  | .string s => quote s
  | .array [] => "[]"
  | .array (v :: rest) =>
    "[\n" ++ Value.prettyItems (level + 1) (v :: rest) ++ "\n" ++ indentation level ++ "]"
  | .object [] => "\x7b\x7d"
  | .object (f :: rest) =>
    "\x7b\n" ++ Value.prettyFields (level + 1) (f :: rest) ++ "\n" ++ indentation level ++ "\x7d"

/-- The items of an array, one a line. -/
def Value.prettyItems (level : Nat) : List Value → String
  | [] => ""
  | [v] => indentation level ++ v.prettyAt level
  | v :: w :: rest =>
    indentation level ++ v.prettyAt level ++ ",\n" ++ Value.prettyItems level (w :: rest)

/-- The fields of an object, one a line. -/
def Value.prettyFields (level : Nat) : List (String × Value) → String
  | [] => ""
  | [(k, v)] => indentation level ++ quote k ++ ": " ++ v.prettyAt level
  | (k, v) :: w :: rest =>
    indentation level ++ quote k ++ ": " ++ v.prettyAt level ++ ",\n" ++
      Value.prettyFields level (w :: rest)

end

/-- The text of a value with one item a line. -/
def Value.pretty (v : Value) : String :=
  v.prettyAt 0

end Cartridge.Json
