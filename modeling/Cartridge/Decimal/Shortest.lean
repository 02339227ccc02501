import Cartridge.Decimal.Binary

/-!
# The fewest decimal digits that read back

A number of a binary format stands for every real that rounds to it: an interval around it, whose
ends belong to it exactly when its mantissa is even.  Its decimal text uses the fewest digits of
any decimal in that interval, and of those the nearest one.

`shortest` tries one digit, two digits, and so on.  On the grid of each length only the two
neighbours of the number can be the nearest decimal of that length, so only they are tested.
-/

namespace Cartridge.Decimal

/-- The decimal `digits · 10 ^ exponent`. -/
structure Scientific where
  digits : Nat
  exponent : Int
  deriving DecidableEq

/-- The number of decimal digits of a positive natural number. -/
def digitCount (n : Nat) : Nat :=
  (Nat.toDigits 10 n).length

/-- The largest `e` with `10 ^ e ≤ num / den`, for positive `num` and `den`. -/
def decimalExponent (num den : Nat) : Int :=
  if den ≤ num then Int.ofNat (digitCount (num / den) - 1)
  else -Int.ofNat (digitCount ((den + num - 1) / num - 1))

/-- The interval of reals that round to a number, over the common denominator `den`. -/
structure RoundingInterval where
  low : Nat
  value : Nat
  high : Nat
  den : Nat
  closed : Bool

/-- The rounding interval of `mantissa · 2 ^ exponent`.  Below a power of two the numbers lie
twice as dense, so the lower end is nearer there. -/
def Format.interval (format : Format) (mantissa : Nat) (exponent : Int) : RoundingInterval :=
  let below :=
    if mantissa == Nat.pow 2 (format.precision - 1) && format.lowest < exponent then 1 else 2
  let (num, den) := fractionOf 1 (exponent - 2)
  { low := (4 * mantissa - below) * num
    value := 4 * mantissa * num
    high := (4 * mantissa + 2) * num
    den := den
    closed := mantissa % 2 == 0 }

/-- The decimal reads back as the number. -/
def RoundingInterval.contains (i : RoundingInterval) (d : Scientific) : Bool :=
  let (num, den) : Nat × Nat :=
    match d.exponent with
    | .ofNat e => (d.digits * Nat.pow 10 e * i.den, 1)
    | .negSucc e => (d.digits * i.den, Nat.pow 10 (e + 1))
  if i.closed then i.low * den ≤ num && num ≤ i.high * den
  else i.low * den < num && num < i.high * den

/-- The decimal on the grid of `10 ^ exponent` nearest to the number, if the grid meets the
interval; a tie goes to the even one. -/
def RoundingInterval.nearest (i : RoundingInterval) (exponent : Int) : Option Scientific :=
  let (num, den) : Nat × Nat :=
    match exponent with
    | .ofNat e => (i.value, i.den * Nat.pow 10 e)
    | .negSucc e => (i.value * Nat.pow 10 (e + 1), i.den)
  let below : Scientific := ⟨num / den, exponent⟩
  let above : Scientific := ⟨num / den + 1, exponent⟩
  let twice := 2 * (num % den)
  let preferBelow := twice < den || (twice == den && below.digits % 2 == 0)
  match i.contains below, i.contains above with
  | true, true => some (if preferBelow then below else above)
  | true, false => some below
  | false, true => some above
  | false, false => none

/-- The first decimal in the interval, with one digit more at each try. -/
def RoundingInterval.firstHit (i : RoundingInterval) (leading : Int) :
    Nat → Nat → Option Scientific
  | 0, _ => none
  | tries + 1, count =>
    match i.nearest (leading - Int.ofNat count) with
    | some d => some d
    | none => i.firstHit leading tries (count + 1)

/-- Drops trailing zeros of the digits. -/
def Scientific.normalize (d : Scientific) : Scientific :=
  go (digitCount d.digits) d
where
  go : Nat → Scientific → Scientific
    | 0, d => d
    | n + 1, d =>
      if d.digits ≠ 0 ∧ d.digits % 10 = 0 then go n ⟨d.digits / 10, d.exponent + 1⟩ else d

/-- The shortest decimal that reads back as `mantissa · 2 ^ exponent`; seventeen digits always
suffice. -/
def Format.shortest (format : Format) (mantissa : Nat) (exponent : Int) : Scientific :=
  let i := format.interval mantissa exponent
  match i.firstHit (decimalExponent i.value i.den) 17 0 with
  | some d => d.normalize
  | none => ⟨mantissa, exponent⟩

/-! ## Writing a decimal -/

/-- How a decimal is written: the exponents of positional notation. -/
structure Layout where
  positionalFrom : Int
  positionalBelow : Int

/-- A run of zeros. -/
def zeros (n : Nat) : List Char := List.replicate n '0'

/-- Positional notation, with at least one digit after the point. -/
def positional (digits : List Char) (leading : Int) : List Char :=
  match leading with
  | .negSucc e => '0' :: '.' :: (zeros e ++ digits)
  | .ofNat e =>
    if digits.length ≤ e + 1 then digits ++ zeros (e + 1 - digits.length) ++ ['.', '0']
    else digits.take (e + 1) ++ '.' :: digits.drop (e + 1)

/-- Scientific notation; the sign of the exponent is always written. -/
def exponential (digits : List Char) (leading : Int) : List Char :=
  let mantissa :=
    match digits with
    | d :: e :: rest => d :: '.' :: e :: rest
    | ds => ds
  let exponent :=
    match leading with
    | .ofNat e => '+' :: Nat.toDigits 10 e
    | .negSucc e => '-' :: Nat.toDigits 10 (e + 1)
  mantissa ++ 'e' :: exponent

/-- The decimal in its notation. -/
def Layout.write (layout : Layout) (d : Scientific) : List Char :=
  let digits := Nat.toDigits 10 d.digits
  let leading := d.exponent + Int.ofNat (digits.length - 1)
  if layout.positionalFrom ≤ leading ∧ leading < layout.positionalBelow then
    positional digits leading
  else exponential digits leading

/-- The text of a number of the format, its sign in front. -/
def Format.write (format : Format) (layout : Layout) (x : Binary) : String :=
  let body :=
    if x.mantissa == 0 then ['0', '.', '0']
    else layout.write (format.shortest x.mantissa x.exponent)
  String.ofList (if x.negative then '-' :: body else body)

end Cartridge.Decimal
