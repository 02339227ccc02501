import Cartridge.Json.Value

/-!
# Number literals

A number literal is kept as it is written until a value is needed: a literal outside the range of
a double is well formed, and only reading its value fails.

The value of a decimal literal is computed from its first digits that fit a 64-bit word, with one
rounded multiplication or division by a power of ten.  Further digits only shift the exponent.
For literals of more than fifteen digits this can differ from the nearest double in the last
place.
-/

namespace Cartridge.Json

open Cartridge.Decimal

/-- A number as written: its digits, without judging its size. -/
structure Literal where
  negative : Bool
  whole : List Nat
  fraction : List Nat
  hasFraction : Bool
  /-- The sign and the digits of the exponent. -/
  exponent : Option (Bool × List Nat)

/-- The largest word of 64 bits. -/
def maxWord : Nat := Nat.pow 2 64 - 1

/-- The largest exponent that is read digit by digit. -/
def maxExponent : Nat := Nat.pow 2 31 - 1

/-- Appends digits while the result fits `limit`; gives the digits left over. -/
def absorbDigits (limit : Nat) : Nat → List Nat → Nat × List Nat
  | n, [] => (n, [])
  | n, d :: rest =>
    if n * 10 + d ≤ limit then absorbDigits limit (n * 10 + d) rest else (n, d :: rest)

/-- The double nearest to `10 ^ k`. -/
def powerOfTen (k : Nat) : Binary :=
  doubleOfNat (Nat.pow 10 k)

/-- Scales a double by a power of ten.  Powers beyond `10 ^ 308` are divided away in steps; two
such steps take any 64-bit significand to zero, so three steps suffice. -/
def scaleByTen : Nat → Binary → Int → Option Binary
  | steps, f, exponent =>
    if exponent.natAbs ≤ 308 then
      let scaled :=
        if 0 ≤ exponent then Format.double.mul f (powerOfTen exponent.natAbs)
        else Format.double.div f (powerOfTen exponent.natAbs)
      match scaled with
      | .finite x => some x
      | .infinite _ => none
    else if f.mantissa == 0 then some f
    else if 0 ≤ exponent then none
    else
      match steps, Format.double.div f (powerOfTen 308) with
      | steps + 1, .finite g => scaleByTen steps g (exponent + 308)
      | _, _ => some ⟨false, 0, Format.double.lowest⟩

/-- The number of 64 bits for a significand and a power of ten; none where it is too large. -/
def doubleOfParts (negative : Bool) (significand : Nat) (exponent : Int) : Option Number :=
  (scaleByTen 4 (doubleOfNat significand) exponent).map fun x =>
    .double { x with negative := negative }

/-- The nearest exponent that a word of 32 bits can hold. -/
def clampExponent (e : Int) : Int :=
  if e < -Int.pow 2 31 then -Int.pow 2 31 else if Int.pow 2 31 - 1 < e then Int.pow 2 31 - 1 else e

/-- The value after the exponent part, given the exponent of the digits before it. -/
def Literal.withExponent (l : Literal) (significand : Nat) (shift : Int) : Option Number :=
  match l.exponent with
  | none => doubleOfParts l.negative significand shift
  | some (negative, digits) =>
    match absorbDigits maxExponent 0 digits with
    | (e, []) =>
      doubleOfParts l.negative significand
        (clampExponent (if negative then shift - Int.ofNat e else shift + Int.ofNat e))
    | (_, _ :: _) =>
      if significand != 0 && !negative then none
      else some (.double ⟨l.negative, 0, Format.double.lowest⟩)

/-- The value of a literal; none when it is out of range. -/
def Literal.number? (l : Literal) : Option Number :=
  let (significand, dropped) := absorbDigits maxWord 0 l.whole
  if l.hasFraction then
    let (significand, unread) := absorbDigits maxWord significand l.fraction
    l.withExponent significand
      (Int.ofNat dropped.length - Int.ofNat (l.fraction.length - unread.length))
  else if l.exponent.isSome || !dropped.isEmpty then
    l.withExponent significand (Int.ofNat dropped.length)
  else if !l.negative then some (.natural significand)
  else if significand == 0 || Nat.pow 2 63 < significand then
    some (.double { doubleOfNat significand with negative := true })
  else some (.negative (-Int.ofNat significand))

end Cartridge.Json
