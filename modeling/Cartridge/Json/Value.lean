import Cartridge.Decimal.Shortest

/-!
# JSON values

A number keeps its kind: a natural number, a negative integer, a double, or a single.  The kind
decides how it prints and which readers accept it, so `1` and `1.0` are different values.  Texts
are read as numbers of the first three kinds only.

An object that stands for a map lists its fields in increasing order of their names, each name
once; `Fields.insert` keeps that order.  An object that stands for a record lists its fields in the
order of the record.
-/

namespace Cartridge.Json

open Cartridge.Decimal

/-- A JSON number. -/
inductive Number
  | natural (n : Nat)
  | negative (n : Int)
  | double (x : Binary)
  | single (x : Binary)
  deriving DecidableEq

/-- A JSON value. -/
inductive Value
  | null
  | bool (b : Bool)
  | number (n : Number)
  | string (s : String)
  | array (items : List Value)
  | object (fields : List (String × Value))

/-- The fields of an object. -/
abbrev Fields := List (String × Value)

namespace Fields

/-- The first value under a name. -/
def get? (fields : List (String × α)) (name : String) : Option α :=
  (fields.find? (·.1 == name)).map (·.2)

/-- Sets a field, keeping the order of names. -/
def insert (name : String) (value : α) : List (String × α) → List (String × α)
  | [] => [(name, value)]
  | (other, old) :: rest =>
    if name < other then (name, value) :: (other, old) :: rest
    else if name = other then (name, value) :: rest
    else (other, old) :: insert name value rest

/-- The object with the given fields; of fields with one name the last is kept. -/
def ofList (entries : List (String × α)) : List (String × α) :=
  entries.foldl (fun fields entry => insert entry.1 entry.2 fields) []

end Fields

/-- The text of a double: positional from `0.00001` to below `10 ^ 16`. -/
def doubleLayout : Layout := ⟨-5, 16⟩

/-- The text of a single: positional from `0.000001` to below `10 ^ 13`. -/
def singleLayout : Layout := ⟨-6, 13⟩

/-- A number as it is printed. -/
def Number.text : Number → String
  | .natural n => String.ofList (Nat.toDigits 10 n)
  | .negative n => String.ofList ('-' :: Nat.toDigits 10 n.natAbs)
  | .double x => Format.double.write doubleLayout x
  | .single x => Format.single.write singleLayout x

namespace Value

/-- The text that a value is. -/
def string? : Value → Option String
  | .string s => some s
  | _ => none

/-- The truth value that a value is. -/
def bool? : Value → Option Bool
  | .bool b => some b
  | _ => none

/-- The whole number without a sign that a value is. -/
def natural? : Value → Option Nat
  | .number (.natural n) => some n
  | _ => none

/-- The items of an array. -/
def array? : Value → Option (List Value)
  | .array items => some items
  | _ => none

/-- A field of an object. -/
def field? (v : Value) (name : String) : Option Value :=
  match v with
  | .object fields => Fields.get? fields name
  | _ => none

/-- The number that a value is, with 64 bits. -/
def double? : Value → Option Binary
  | .number (.natural n) => some (doubleOfNat n)
  | .number (.negative n) => some { doubleOfNat n.natAbs with negative := true }
  | .number (.double x) => some x
  | .number (.single x) => some x
  | _ => none

end Value

end Cartridge.Json
