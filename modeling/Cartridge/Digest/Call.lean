import Cartridge.Json.Value
import Cartridge.Text.Utf8

/-!
# What a structural digest is fed

A structured value is digested as a list of calls.  Each call writes a mark that names its kind,
then its content; content of variable size has its length in front.  So the bytes of a list of
calls determine the calls.

`Digestible` gives the calls of a type.  A composite value announces its shape by a tag before its
parts.
-/

namespace Cartridge.Digest

open Cartridge.Json

/-- One piece of content fed to a digest. -/
inductive Call
  | tag (name : String)
  | text (s : String)
  | bytes (content : List UInt8)
  | word (n : UInt64)
  | integer (n : Int64)
  | flag (b : Bool)
  | none
  deriving DecidableEq

/-- The bytes of a word, least significant first. -/
def wordBytes (n : UInt64) : List UInt8 :=
  [n.toUInt8, (n >>> 8).toUInt8, (n >>> 16).toUInt8, (n >>> 24).toUInt8, (n >>> 32).toUInt8,
    (n >>> 40).toUInt8, (n >>> 48).toUInt8, (n >>> 56).toUInt8]

/-- Content behind its length. -/
def sized (content : List UInt8) : List UInt8 :=
  wordBytes (UInt64.ofNat content.length) ++ content

/-- The bytes of a call. -/
def Call.stream : Call → List UInt8
  | .tag name => 0x01 :: sized (Text.utf8 name)
  | .text s => 0x02 :: sized (Text.utf8 s)
  | .bytes content => 0x03 :: sized content
  | .word n => 0x04 :: wordBytes n
  | .integer n => 0x05 :: wordBytes n.toUInt64
  | .flag b => [0x06, if b then 1 else 0]
  | .none => [0x07]

/-- The bytes of calls. -/
def stream (calls : List Call) : List UInt8 :=
  calls.flatMap Call.stream

/-! ## Calls of values -/

/-- Types whose values can be digested. -/
class Digestible (α : Type) where
  calls : α → List Call

export Digestible (calls)

/-- The call for a number of items. -/
def countCall (n : Nat) : Call :=
  .word (UInt64.ofNat n)

instance : Digestible String := ⟨fun s => [.text s]⟩

instance : Digestible Bool := ⟨fun b => [.flag b]⟩

instance : Digestible Nat := ⟨fun n => [countCall n]⟩

instance [Digestible α] : Digestible (Option α) where
  calls
    | some a => .tag "some" :: calls a
    | none => [.none]

/-- A list: its length, then its items. -/
instance [Digestible α] : Digestible (List α) where
  calls items := .tag "seq" :: countCall items.length :: items.flatMap calls

/-- The calls for a map: their number, then each key with its value. -/
def mapCalls [Digestible α] (entries : List (String × α)) : List Call :=
  .tag "map" :: countCall entries.length ::
    entries.flatMap fun entry => .text entry.1 :: calls entry.2

mutual

/-- The calls for a JSON value. -/
def valueCalls : Value → List Call
  | .null => [.tag "null"]
  | .bool b => [.flag b]
  | .number n => [.tag "num", .text n.text]
  | .string s => [.text s]
  | .array items => .tag "seq" :: countCall items.length :: itemCalls items
  | .object fields => .tag "obj" :: countCall fields.length :: fieldCalls fields

/-- The calls for the items of an array. -/
def itemCalls : List Value → List Call
  | [] => []
  | v :: rest => valueCalls v ++ itemCalls rest

/-- The calls for the fields of an object. -/
def fieldCalls : List (String × Value) → List Call
  | [] => []
  | (name, v) :: rest => .text name :: (valueCalls v ++ fieldCalls rest)

end

instance : Digestible Value := ⟨valueCalls⟩

end Cartridge.Digest
