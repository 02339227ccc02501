/-!
# Hexadecimal

Bytes as pairs of hexadecimal digits, and numbers padded to a width.
-/

namespace Cartridge.Text

/-- A hexadecimal digit; `upper` chooses capitals. -/
def hexChar (upper : Bool) (n : Nat) : Char :=
  if n < 10 then Char.ofNat (48 + n) else Char.ofNat ((if upper then 55 else 87) + n)

/-- The digits of a number, at least `width` of them, in capitals. -/
def hexPadded (width n : Nat) : String :=
  let digits := if n == 0 then [] else go (n.log2 / 4 + 1) n []
  String.ofList (List.replicate (width - digits.length) '0' ++ digits)
where
  go : Nat → Nat → List Char → List Char
    | 0, _, acc => acc
    | k + 1, n, acc => go k (n / 16) (hexChar true (n % 16) :: acc)

/-- The two lower-case digits of a byte. -/
def hexByte (b : UInt8) : List Char :=
  [hexChar false (b.toNat / 16), hexChar false (b.toNat % 16)]

/-- Bytes in hexadecimal. -/
def hexOf (bytes : List UInt8) : String :=
  String.ofList (bytes.flatMap hexByte)

/-- The value of a hexadecimal digit of either case. -/
def hexDigit? (c : Char) : Option Nat :=
  if '0' ≤ c ∧ c ≤ '9' then some (c.toNat - 48)
  else if 'a' ≤ c ∧ c ≤ 'f' then some (c.toNat - 87)
  else if 'A' ≤ c ∧ c ≤ 'F' then some (c.toNat - 55)
  else none

/-- The bytes that pairs of digits write. -/
def bytesOfHexChars? : List Char → Option (List UInt8)
  | [] => some []
  | a :: b :: rest => do
    let high ← hexDigit? a
    let low ← hexDigit? b
    let tail ← bytesOfHexChars? rest
    return UInt8.ofNat (high * 16 + low) :: tail
  | [_] => none

/-- The bytes written by a hexadecimal text. -/
def bytesOfHex? (s : String) : Option (List UInt8) :=
  bytesOfHexChars? s.toList

end Cartridge.Text
