import Cartridge.Json.Document

/-!
# Decoding documents

A decoder asks a part of a document for a value of one type and answers none when the part has
another shape.  It carries the number of arrays and objects that may still be opened: at most
`nestingLimit` may be open at once in what is decoded.

A record is an object with its fields by name, or an array with its fields in order.  Unknown
fields are not looked at.  A field of a record may be given once only, while in a plain map the
last entry of a name counts.
-/

namespace Cartridge.Json

/-- The largest number of arrays and objects open at once. -/
def nestingLimit : Nat := 127

/-- A reader of one type from a part of a document, with room for nested parts. -/
abbrev Decoder (α : Type) := Nat → Node → Option α

namespace Decoder

/-- A text. -/
def string : Decoder String
  | _, .string text => text
  | _, _ => none

/-- A truth value. -/
def bool : Decoder Bool
  | _, .bool b => some b
  | _, _ => none

/-- A whole number between two bounds. -/
def integer (low high : Int) : Decoder Int
  | _, .number (some (.natural n)) => if Int.ofNat n ≤ high then some (Int.ofNat n) else none
  | _, .number (some (.negative n)) => if low ≤ n then some n else none
  | _, _ => none

/-- A whole number from zero up to a bound. -/
def natural (bound : Nat) : Decoder Nat
  | room, node => ((integer 0 (Int.ofNat bound - 1)) room node).map Int.toNat

/-- A value, or nothing for null. -/
def optional (decoder : Decoder α) : Decoder (Option α)
  | _, .null => some none
  | room, node => (decoder room node).map some

/-- A list, with a decoder for its items. -/
def list (decoder : Decoder α) : Decoder (List α)
  | room + 1, .array items => items.mapM (decoder room)
  | _, _ => none

/-- A map, with a decoder for its values; of repeated keys the last counts. -/
def map (decoder : Decoder α) : Decoder (List (String × α))
  | room + 1, .object entries => do
    let entries ← entries.mapM fun entry => do
      let name ← entry.1
      let value ← decoder room entry.2
      return (name, value)
    return Fields.ofList entries
  | _, _ => none

/-- One of several named choices: its name, or an object whose one entry maps the name to null. -/
def choice (names : List (String × α)) : Decoder α
  | _, .string (some name) => Fields.get? names name
  | _ + 1, .object [(some name, .null)] => Fields.get? names name
  | _, _ => none

/-! ## Records -/

/-- The fields given for a record: a name and the part of the document that gives its value. -/
abbrev Given := List (String × Node)

/-- The fields that a part of a document gives for a record with the given field names, and the
room inside it. -/
def fields (names : List String) : Decoder (Given × Nat)
  | room + 1, .object entries => do
    let entries ← entries.mapM fun entry => entry.1.map (·, entry.2)
    let known := entries.filter fun entry => names.contains entry.1
    if (known.map (·.1)).Nodup then some (known, room) else none
  | room + 1, .array items =>
    if items.length ≤ names.length then some (names.zip items, room) else none
  | _, _ => none

/-- The value of a field, or a default where it is missing. -/
def field (given : Given × Nat) (name : String) (decoder : Decoder α) (default : α) : Option α :=
  match Fields.get? given.1 name with
  | some node => decoder given.2 node
  | none => some default

/-- The value of a field that has to be there. -/
def required (given : Given × Nat) (name : String) (decoder : Decoder α) : Option α :=
  (Fields.get? given.1 name).bind (decoder given.2)

end Decoder

/-! ## Plain values -/

mutual

/-- The value of a node, if it is well formed and not nested too deeply. -/
def Node.value? : Node → Nat → Option Value
  | .null, _ => some .null
  | .bool b, _ => some (.bool b)
  | .number value, _ => value.map .number
  | .string text, _ => text.map .string
  | .array items, room + 1 => (Node.values? items room).map .array
  | .object entries, room + 1 =>
    (Node.fieldValues? entries room).map fun fields => .object (Fields.ofList fields)
  | _, 0 => none

/-- The values of items. -/
def Node.values? : List Node → Nat → Option (List Value)
  | [], _ => some []
  | item :: rest, room =>
    match item.value? room, Node.values? rest room with
    | some v, some vs => some (v :: vs)
    | _, _ => none

/-- The values of fields. -/
def Node.fieldValues? : List (Option String × Node) → Nat → Option (List (String × Value))
  | [], _ => some []
  | (name, node) :: rest, room =>
    match name, node.value? room, Node.fieldValues? rest room with
    | some k, some v, some vs => some ((k, v) :: vs)
    | _, _, _ => none

end

/-- Any value. -/
def Decoder.value : Decoder Value :=
  fun room node => node.value? room

/-- The fields of an object of any values. -/
def Decoder.valueFields : Decoder Fields :=
  fun room node =>
    match node, node.value? room with
    | .object _, some (.object fields) => some fields
    | _, _ => none

/-- What a decoder makes of a value. -/
def Value.decode? (v : Value) (decoder : Decoder α) : Option α :=
  decoder nestingLimit (Node.ofValue v)

/-- The value that a text writes. -/
def Value.ofText? (text : String) : Option Value :=
  (Node.ofText? text).bind (·.value? nestingLimit)

end Cartridge.Json
