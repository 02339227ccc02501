import Cartridge.Json.Literal
import Cartridge.Text.Utf8

/-!
# JSON documents as written

A document is read into a tree that still shows how it was written: an object lists its entries
in the order of the text, repeated names included, a number may be out of range, and a string that
holds an unpaired surrogate or bytes of no character has no text.  What a part of the document
means, and whether it means anything, is decided by the decoder that asks for it; parts nobody asks
for only have to be well formed.

A document is read byte by byte, each byte as the character of the same number.  All that gives a
document its structure has numbers below 128; the bytes of a string are put together at its end.
-/

namespace Cartridge.Json

/-- A part of a document. -/
inductive Node
  | null
  | bool (b : Bool)
  /-- A number; none when it is out of range. -/
  | number (value : Option Number)
  /-- A string; none when it has no text. -/
  | string (text : Option String)
  | array (items : List Node)
  | object (entries : List (Option String × Node))

/-! ## Reading -/

/-- Blanks between the parts of a document. -/
def isSeparator (c : Char) : Bool :=
  c == ' ' || c == '\n' || c == '\t' || c == '\r'

/-- Passes over blanks. -/
def skipBlanks (cs : List Char) : List Char :=
  cs.dropWhile isSeparator

/-- The value of a hexadecimal digit of either case. -/
def hexValue? (c : Char) : Option Nat :=
  if '0' ≤ c ∧ c ≤ '9' then some (c.toNat - 48)
  else if 'a' ≤ c ∧ c ≤ 'f' then some (c.toNat - 87)
  else if 'A' ≤ c ∧ c ≤ 'F' then some (c.toNat - 55)
  else none

/-- The number written by four hexadecimal digits. -/
def hexQuad? (a b c d : Char) : Option Nat := do
  let a ← hexValue? a
  let b ← hexValue? b
  let c ← hexValue? c
  let d ← hexValue? d
  return ((a * 16 + b) * 16 + c) * 16 + d

/-- The character of an escape of one letter. -/
def shortEscape? (c : Char) : Option Char :=
  if c == '"' then some '"'
  else if c == '\\' then some '\\'
  else if c == '/' then some '/'
  else if c == 'b' then some (Char.ofNat 0x08)
  else if c == 'f' then some (Char.ofNat 0x0C)
  else if c == 'n' then some '\n'
  else if c == 'r' then some '\r'
  else if c == 't' then some '\t'
  else none

/-- Adds a character to the bytes of a text, which are kept backwards. -/
def addChar (c : Char) (bytes : List UInt8) : List UInt8 :=
  (Text.utf8 (String.singleton c)).reverse ++ bytes

/-- The text of bytes that were collected backwards. -/
def textOfBytes (bytes : List UInt8) : Option String :=
  Text.ofUtf8? ⟨bytes.reverse.toArray⟩

/-- Reads a string after its opening quote.  `pending` is an upper surrogate that waits for its
lower half; `text` holds the bytes of the string read so far, backwards, or none once a surrogate
stayed unpaired. -/
def readString (pending : Option Nat) (text : Option (List UInt8)) :
    List Char → Option (Option String × List Char)
  | [] => none
  | '"' :: rest => some ((if pending.isSome then none else text.bind textOfBytes), rest)
  | '\\' :: 'u' :: a :: b :: c :: d :: rest =>
    match hexQuad? a b c d with
    | none => none
    | some n =>
      match pending with
      | some high =>
        if 0xDC00 ≤ n ∧ n < 0xE000 then
          let joined := Char.ofNat (0x10000 + (high - 0xD800) * 0x400 + (n - 0xDC00))
          readString none (text.map (addChar joined)) rest
        else readString (if 0xD800 ≤ n ∧ n < 0xDC00 then some n else none) none rest
      | none =>
        if 0xD800 ≤ n ∧ n < 0xDC00 then readString (some n) text rest
        else if 0xDC00 ≤ n ∧ n < 0xE000 then readString none none rest
        else readString none (text.map (addChar (Char.ofNat n))) rest
  | '\\' :: c :: rest =>
    match shortEscape? c with
    | none => none
    | some e => readString none (if pending.isSome then none else text.map (addChar e)) rest
  | c :: rest =>
    if c.toNat < 0x20 || c == '\\' then none
    else
      let byte := UInt8.ofNat c.toNat
      readString none (if pending.isSome then none else text.map (byte :: ·)) rest

/-- The digits at the start of a text, and what follows them. -/
def takeDigits (cs : List Char) : List Nat × List Char :=
  ((cs.takeWhile Char.isDigit).map fun c => c.toNat - 48, cs.dropWhile Char.isDigit)

/-- Reads the fraction part, if there is one; a point needs a digit after it. -/
def readFraction : List Char → Option (List Nat × Bool × List Char)
  | '.' :: rest =>
    match takeDigits rest with
    | ([], _) => none
    | (digits, rest) => some (digits, true, rest)
  | cs => some ([], false, cs)

/-- The digits of an exponent behind its sign. -/
def readExponentDigits (negative : Bool) (cs : List Char) :
    Option (Option (Bool × List Nat) × List Char) :=
  match takeDigits cs with
  | ([], _) => none
  | (digits, rest) => some (some (negative, digits), rest)

/-- The exponent at the start of a text, if there is one, and what follows it. -/
def readExponent : List Char → Option (Option (Bool × List Nat) × List Char)
  | c :: rest =>
    if c == 'e' || c == 'E' then
      match rest with
      | '+' :: rest => readExponentDigits false rest
      | '-' :: rest => readExponentDigits true rest
      | rest => readExponentDigits false rest
    else some (none, c :: rest)
  | [] => some (none, [])

/-- Reads a number after its sign.  A leading zero stands alone. -/
def readNumber (negative : Bool) (cs : List Char) : Option (Node × List Char) := do
  let (whole, rest) ←
    match takeDigits cs with
    | ([], _) => none
    | (0 :: _ :: _, _) => none
    | (whole, rest) => some (whole, rest)
  let (fraction, hasFraction, rest) ← readFraction rest
  let (exponent, rest) ← readExponent rest
  let literal : Literal := ⟨negative, whole, fraction, hasFraction, exponent⟩
  return (.number literal.number?, rest)

mutual

/-- Reads one part of a document.  Each step reads at least one character, so the length of the
text bounds the number of steps. -/
def readNode : Nat → List Char → Option (Node × List Char)
  | 0, _ => none
  | steps + 1, cs =>
    match skipBlanks cs with
    | 'n' :: 'u' :: 'l' :: 'l' :: rest => some (.null, rest)
    | 't' :: 'r' :: 'u' :: 'e' :: rest => some (.bool true, rest)
    | 'f' :: 'a' :: 'l' :: 's' :: 'e' :: rest => some (.bool false, rest)
    | '"' :: rest => (readString none (some []) rest).map fun (text, rest) => (.string text, rest)
    | '-' :: rest => readNumber true rest
    | '[' :: rest =>
      match skipBlanks rest with
      | ']' :: rest => some (.array [], rest)
      | rest => (readItems steps rest).map fun (items, rest) => (.array items, rest)
    | '{' :: rest =>
      match skipBlanks rest with
      | '}' :: rest => some (.object [], rest)
      | rest => (readEntries steps rest).map fun (entries, rest) => (.object entries, rest)
    | rest => readNumber false rest

/-- Reads the items of an array up to its closing bracket. -/
def readItems : Nat → List Char → Option (List Node × List Char)
  | 0, _ => none
  | steps + 1, cs =>
    match readNode steps cs with
    | none => none
    | some (item, rest) =>
      match skipBlanks rest with
      | ',' :: rest => (readItems steps rest).map fun (items, rest) => (item :: items, rest)
      | ']' :: rest => some ([item], rest)
      | _ => none

/-- Reads the entries of an object up to its closing brace. -/
def readEntries : Nat → List Char → Option (List (Option String × Node) × List Char)
  | 0, _ => none
  | steps + 1, cs =>
    match skipBlanks cs with
    | '"' :: rest =>
      match readString none (some []) rest with
      | none => none
      | some (name, rest) =>
        match skipBlanks rest with
        | ':' :: rest =>
          match readNode steps rest with
          | none => none
          | some (node, rest) =>
            match skipBlanks rest with
            | ',' :: rest =>
              (readEntries steps rest).map fun (entries, rest) => ((name, node) :: entries, rest)
            | '}' :: rest => some ([(name, node)], rest)
            | _ => none
        | _ => none
    | _ => none

end

/-- Reads a whole document; only blanks may follow it. -/
def Node.ofData? (data : ByteArray) : Option Node :=
  let cs := data.data.toList.map fun b => Char.ofNat b.toNat
  match readNode (cs.length + 1) cs with
  | some (node, rest) => if (skipBlanks rest).isEmpty then some node else none
  | none => none

/-- Reads a whole document that is given as a text. -/
def Node.ofText? (text : String) : Option Node :=
  Node.ofData? text.toUTF8

/-! ## Documents of values -/

mutual

/-- The node that a value is written as. -/
def Node.ofValue : Value → Node
  | .null => .null
  | .bool b => .bool b
  | .number n => .number (some n)
  | .string s => .string (some s)
  | .array items => .array (Node.ofItems items)
  | .object fields => .object (Node.ofFields fields)

/-- The nodes of items. -/
def Node.ofItems : List Value → List Node
  | [] => []
  | v :: rest => Node.ofValue v :: Node.ofItems rest

/-- The nodes of fields. -/
def Node.ofFields : List (String × Value) → List (Option String × Node)
  | [] => []
  | (name, v) :: rest => (some name, Node.ofValue v) :: Node.ofFields rest

end

end Cartridge.Json
