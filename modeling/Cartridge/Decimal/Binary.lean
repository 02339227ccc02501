/-!
# Binary floating-point numbers, exactly

A finite number of a binary format is a sign, a mantissa and the exponent of its last place.  All
arithmetic here is done on exact fractions of natural numbers and rounded once, to the nearest
number of the format, with ties to the even mantissa.  The machine's own floating-point type is
not used, so every value below can be computed in a proof.
-/

namespace Cartridge.Decimal

/-- A binary format: the number of significant bits and the range of the last place's exponent. -/
structure Format where
  precision : Nat
  lowest : Int
  highest : Int

/-- Numbers of 64 bits. -/
def Format.double : Format := ⟨53, -1074, 971⟩

/-- Numbers of 32 bits. -/
def Format.single : Format := ⟨24, -149, 104⟩

/-- The number `± mantissa · 2 ^ exponent`. -/
structure Binary where
  negative : Bool
  mantissa : Nat
  exponent : Int
  deriving DecidableEq

/-- A number of a format, or one of its two infinities. -/
inductive Rounded
  | finite (value : Binary)
  | infinite (negative : Bool)
  deriving DecidableEq

/-- The fraction `mantissa · 2 ^ exponent` as numerator and denominator. -/
def fractionOf (mantissa : Nat) (exponent : Int) : Nat × Nat :=
  match exponent with
  | .ofNat e => (mantissa * Nat.pow 2 e, 1)
  | .negSucc e => (mantissa, Nat.pow 2 (e + 1))

/-- The numerator and denominator of the number without its sign. -/
def Binary.fraction (x : Binary) : Nat × Nat :=
  fractionOf x.mantissa x.exponent

/-- The largest `e` with `2 ^ e ≤ num / den`, for positive `num` and `den`. -/
def binaryExponent (num den : Nat) : Int :=
  let guess : Int := Int.ofNat num.log2 - Int.ofNat den.log2
  let (n, d) := fractionOf den guess
  if n ≤ num * d then guess else guess - 1

/-- The nearest whole number to a fraction; a half goes to the even neighbour. -/
def roundHalfEven (num den : Nat) : Nat :=
  let whole := num / den
  let twice := 2 * (num % den)
  if twice < den then whole
  else if den < twice then whole + 1
  else if whole % 2 == 0 then whole else whole + 1

/-- The number of a format that is nearest to a fraction. -/
def Format.round (format : Format) (negative : Bool) (num den : Nat) : Rounded :=
  if num == 0 || den == 0 then .finite ⟨negative, 0, format.lowest⟩
  else
    let place := binaryExponent num den - Int.ofNat (format.precision - 1)
    let place := if place < format.lowest then format.lowest else place
    let (stepNum, stepDen) := fractionOf 1 place
    let mantissa := roundHalfEven (num * stepDen) (den * stepNum)
    let (mantissa, place) :=
      if mantissa == Nat.pow 2 format.precision then (mantissa / 2, place + 1)
      else (mantissa, place)
    if format.highest < place then .infinite negative else .finite ⟨negative, mantissa, place⟩

/-- The double nearest to a natural number below the infinity threshold. -/
def doubleOfNat (n : Nat) : Binary :=
  match Format.double.round false n 1 with
  | .finite x => x
  | .infinite _ => ⟨false, 0, Format.double.lowest⟩

/-- The product of two numbers, rounded once. -/
def Format.mul (format : Format) (x y : Binary) : Rounded :=
  let (a, b) := x.fraction
  let (c, d) := y.fraction
  format.round (x.negative != y.negative) (a * c) (b * d)

/-- The quotient of two numbers, rounded once. -/
def Format.div (format : Format) (x y : Binary) : Rounded :=
  let (a, b) := x.fraction
  let (c, d) := y.fraction
  format.round (x.negative != y.negative) (a * d) (b * c)

/-- The number of a format that is nearest to another number. -/
def Format.narrow (format : Format) (x : Binary) : Rounded :=
  let (a, b) := x.fraction
  format.round x.negative a b

/-- The whole part of the absolute value. -/
def Binary.truncate (x : Binary) : Nat :=
  let (a, b) := x.fraction
  a / b

/-- The nearest integer, halves away from zero. -/
def Binary.roundAway (x : Binary) : Int :=
  let (a, b) := x.fraction
  let magnitude := (2 * a + b) / (2 * b)
  if x.negative then -Int.ofNat magnitude else Int.ofNat magnitude

end Cartridge.Decimal
