import Cartridge.Decimal.Binary
import Cartridge.Shell.Arithmetic

/-!
# Formatted output of scripts

What the printing commands write: escapes that start with a backslash, and places for arguments
with a width, a precision and flags.
-/

namespace Cartridge.Shell

/-! ## Escapes -/

/-- The byte of octal digits, at most three of them, and what follows. -/
def octal (text : List Char) : Char × List Char :=
  let taken := (text.take 3).takeWhile fun c => '0' ≤ c && c ≤ '7'
  (Char.ofNat ((digits 8 taken).2.1 % 256), text.drop taken.length)

/-- The character of an escape by its letter. -/
def escapeChar? : Char → Option Char
  | 'n' => some '\n'
  | 't' => some '\t'
  | 'r' => some '\r'
  | 'a' => some (Char.ofNat 7)
  | 'b' => some (Char.ofNat 8)
  | 'f' => some (Char.ofNat 12)
  | 'v' => some (Char.ofNat 11)
  | '\\' => some '\\'
  | _ => none

/-- The character of an escape behind its backslash, and what follows; a backslash without an escape
stands for itself. -/
def readEscape (text : List Char) : Char × List Char :=
  match text with
  | [] => ('\\', [])
  | c :: rest =>
    match escapeChar? c with
    | some e => (e, rest)
    | none => if '0' ≤ c && c ≤ '7' then octal text else ('\\', text)

/-- A text with its escapes replaced, and whether output goes on behind it.  A zero may stand before
octal digits. -/
def expandEscapes : (room : Nat) → List Char → List Char × Bool
  | 0, _ => ([], true)
  | _ + 1, [] => ([], true)
  | _ + 1, '\\' :: 'c' :: _ => ([], false)
  | room + 1, '\\' :: rest =>
    let (c, rest) := match rest with
      | '0' :: rest => octal rest
      | rest => readEscape rest
    let (others, goesOn) := expandEscapes room rest
    (c :: others, goesOn)
  | room + 1, c :: rest =>
    let (others, goesOn) := expandEscapes room rest
    (c :: others, goesOn)

/-- The line that arguments make. -/
def echoText (args : List String) : String :=
  let (args, line) := match args with
    | "-n" :: rest => (rest, false)
    | args => (args, true)
  let text := " ".intercalate args
  let (chars, goesOn) := expandEscapes (text.length + 1) text.toList
  String.ofList chars ++ if goesOn && line then "\n" else ""

/-! ## Places for arguments -/

/-- A place for an argument. -/
structure Place where
  left : Bool := false
  plus : Bool := false
  zero : Bool := false
  width : Nat := 0
  precision : Option Nat := none

namespace Place

/-- Fills a text up with blanks to the width of its place. -/
def pad (place : Place) (text : String) : String :=
  let blanks := String.ofList (List.replicate (place.width - text.length) ' ')
  if place.left then text ++ blanks else blanks ++ text

/-- Fills a number up to the width of its place: zeros stand behind its sign. -/
def padNumber (place : Place) (zeros negative : Bool) (digits : String) : String :=
  let sign := if negative then "-" else if place.plus then "+" else ""
  if zeros && place.zero && !place.left then
    sign ++ String.ofList (List.replicate (place.width - sign.length - digits.length) '0') ++ digits
  else place.pad (sign ++ digits)

/-- A text cut to the precision of its place. -/
def cut (place : Place) (text : String) : String :=
  match place.precision with
  | some n => String.ofList (text.toList.take n)
  | none => text

/-- The text of a whole number; only decimal numbers have a sign. -/
def integer (place : Place) (kind : Char) (n : Int) : String :=
  let base := if kind == 'o' then 8 else if kind == 'x' || kind == 'X' then 16 else 10
  let isSigned := kind == 'd' || kind == 'i'
  let value := if isSigned then n.natAbs else (n % Int.pow 2 64).toNat
  let digits := if value = 0 && place.precision = some 0 then [] else Nat.toDigits base value
  let digits := if kind == 'X' then digits.map Char.toUpper else digits
  let digits := List.replicate (place.precision.getD 0 - digits.length) '0' ++ digits
  { place with plus := place.plus && isSigned }.padNumber place.precision.isNone
    (isSigned && n < 0) (String.ofList digits)

/-- The text of a fraction, given as a number and a power of ten that divides it. -/
def fraction (place : Place) (negative : Bool) (value scale : Nat) : String :=
  let places := place.precision.getD 6
  let rounded := Decimal.roundHalfEven (value * Nat.pow 10 places) (Nat.pow 10 scale)
  let digits := Nat.toDigits 10 rounded
  let digits := List.replicate (places + 1 - digits.length) '0' ++ digits
  let (whole, part) := digits.splitAt (digits.length - places)
  place.padNumber true negative
    (String.ofList whole ++ if places = 0 then "" else "." ++ String.ofList part)

end Place

/-! ## Formats -/

/-- What a formatted print has done. -/
structure Printed where
  text : String := ""
  /-- Complaints about arguments. -/
  complaints : List String := []
  /-- The complaint about the format that ended the print. -/
  fault : Option String := none
  /-- Nothing more is printed. -/
  stopped : Bool := false
  args : List String

namespace Printed

/-- Adds a text. -/
def add (printed : Printed) (text : String) : Printed :=
  { printed with text := printed.text ++ text }

/-- The next argument; a missing one is empty. -/
def next (printed : Printed) : String × Printed :=
  (printed.args.headD "", { printed with args := printed.args.drop 1 })

/-- Complains about an argument that is no number as a whole. -/
def check (printed : Printed) (arg : String) (rest : Option (List Char)) : Printed :=
  let complain (text : String) : Printed :=
    { printed with complaints := printed.complaints ++ [arg ++ ": " ++ text] }
  match rest with
  | some [] => printed
  | some _ => complain "not completely converted"
  | none => if arg == "" then printed else complain "expected numeric value"

/-- Prints a whole number. -/
def putInteger (printed : Printed) (place : Place) (kind : Char) : Printed :=
  let (arg, printed) := printed.next
  let found := integer? true arg.toList
  (printed.check arg (found.map (·.2))).add (place.integer kind (clamp ((found.map (·.1)).getD 0)))

/-- Prints a fraction. -/
def putFraction (printed : Printed) (place : Place) : Printed :=
  let (arg, printed) := printed.next
  let (negative, text) := match arg.toList with
    | '-' :: rest => (true, rest)
    | text => (false, text)
  let (whole, _, rest) := digits 10 text
  let (part, rest) := match rest with
    | '.' :: after => ((digits 10 after).1, (digits 10 after).2.2)
    | rest => ([], rest)
  let isNumber := !(whole.isEmpty && part.isEmpty)
  (printed.check arg (if isNumber then some rest else none)).add
    (place.fraction negative (digits 10 (whole ++ part)).2.1 part.length)

/-- Prints the next argument in its place. -/
def put (printed : Printed) (place : Place) (kind : Char) : Printed :=
  match kind with
  | 's' =>
    let (arg, printed) := printed.next
    printed.add (place.pad (place.cut arg))
  | 'c' =>
    let (arg, printed) := printed.next
    printed.add (place.pad (String.singleton (arg.toList.headD (Char.ofNat 0))))
  | 'b' =>
    let (arg, printed) := printed.next
    let (chars, goesOn) := expandEscapes (arg.length + 1) arg.toList
    { printed.add (place.pad (place.cut (String.ofList chars))) with stopped := !goesOn }
  | 'f' => printed.putFraction place
  | kind => printed.putInteger place kind

/-- Prints a format, at most `room` pieces of it. -/
def once : (room : Nat) → List Char → Printed → Printed
  | 0, _, printed => printed
  | _ + 1, [], printed => printed
  | room + 1, '\\' :: rest, printed =>
    let (c, rest) := readEscape rest
    once room rest (printed.add (String.singleton c))
  | room + 1, '%' :: '%' :: rest, printed => once room rest (printed.add "%")
  | room + 1, '%' :: rest, printed =>
    let flags := rest.takeWhile fun c => "-+0".toList.contains c
    let (_, width, after) := digits 10 (rest.drop flags.length)
    let (precision, after) := match after with
      | '.' :: after => (some (digits 10 after).2.1, (digits 10 after).2.2)
      | after => (none, after)
    match after with
    | [] => { printed with fault := some "missing format character" }
    | kind :: next =>
      if "diouxXfsbc".toList.contains kind then
        let printed := printed.put ⟨flags.contains '-', flags.contains '+', flags.contains '0',
          width, precision⟩ kind
        if printed.stopped then printed else once room next printed
      else
        let directive := '%' :: rest.take (rest.length - next.length)
        { printed with fault := some (String.ofList directive ++ ": invalid directive") }
  | room + 1, c :: rest, printed => once room rest (printed.add (String.singleton c))

/-- Prints a format again as long as arguments are left and it takes some of them. -/
def again (format : List Char) : (room : Nat) → Printed → Printed
  | 0, printed => printed
  | room + 1, printed =>
    let after := once (format.length + 1) format printed
    if after.stopped || after.fault.isSome || after.args.isEmpty ||
        after.args.length == printed.args.length then after
    else again format room after

end Printed

/-- What a format and its arguments print. -/
def printFormat (format : String) (args : List String) : Printed :=
  Printed.again format.toList (args.length + 1) { args := args }

end Cartridge.Shell
