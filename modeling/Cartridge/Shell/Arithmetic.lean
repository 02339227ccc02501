/-!
# Numbers and arithmetic

Numbers have 64 bits and a sign.  They are written in decimal, with a leading zero in octal, or
behind `0x` in hexadecimal.  Expressions combine numbers and variables.
-/

namespace Cartridge.Shell

/-! ## Numbers -/

/-- The number with the same last 64 bits. -/
def wrap (n : Int) : Int :=
  n.bmod (Nat.pow 2 64)

/-- The nearest number that has 64 bits. -/
def clamp (n : Int) : Int :=
  max (-Int.pow 2 63) (min (Int.pow 2 63 - 1) n)

/-- The value of a digit in a base. -/
def digitValue? (base : Nat) (c : Char) : Option Nat :=
  let value :=
    if c.isDigit then c.toNat - '0'.toNat
    else if 'a' ≤ c && c ≤ 'f' then c.toNat - 'a'.toNat + 10
    else if 'A' ≤ c && c ≤ 'F' then c.toNat - 'A'.toNat + 10
    else base
  if value < base then some value else none

/-- The digits at the start of a text, their value, and what follows them. -/
def digits (base : Nat) (text : List Char) : List Char × Nat × List Char :=
  let taken := text.takeWhile fun c => (digitValue? base c).isSome
  (taken, taken.foldl (fun n c => n * base + (digitValue? base c).getD 0) 0,
    text.drop taken.length)

/-- A character that may stand around a number. -/
def isBlankChar (c : Char) : Bool :=
  c == ' ' || (9 ≤ c.toNat && c.toNat ≤ 13)

/-- An unsigned number at the start of a text, and what follows it. -/
def natural? (anyBase : Bool) (text : List Char) : Option (Nat × List Char) :=
  let (base, text) := match anyBase, text with
    | true, '0' :: 'x' :: rest | true, '0' :: 'X' :: rest => (16, rest)
    | true, '0' :: rest => (8, '0' :: rest)
    | _, text => (10, text)
  let (taken, n, rest) := digits base text
  if taken.isEmpty then none else some (n, rest)

/-- A number at the start of a text, and what follows it; blanks and a sign may stand before it.
The number is the true one, which may be too large. -/
def integer? (anyBase : Bool) (text : List Char) : Option (Int × List Char) :=
  match text.dropWhile isBlankChar with
  | '-' :: rest => (natural? anyBase rest).map fun (n, rest) => (-Int.ofNat n, rest)
  | '+' :: rest => (natural? anyBase rest).map fun (n, rest) => (Int.ofNat n, rest)
  | rest => (natural? anyBase rest).map fun (n, rest) => (Int.ofNat n, rest)

/-- The number that a whole text writes; blanks may stand around it. -/
def wholeInteger? (anyBase : Bool) (s : String) : Option Int := do
  let (n, rest) ← integer? anyBase s.toList
  if (rest.dropWhile isBlankChar).isEmpty && clamp n == n then some n else none

/-! ## Expressions -/

/-- A piece of an expression. -/
inductive Term
  | number (n : Int)
  | name (s : String)
  | symbol (s : String)

/-- Symbols of expressions, the longer ones first. -/
def arithmeticSymbols : List String :=
  ["<=", ">=", "==", "!=", "&&", "||", "<", ">", "!", "*", "/", "%", "+", "-", "(", ")"]

/-- Cuts an expression into pieces, at most `room` of them; none where a character belongs to no
piece. -/
def terms? : (room : Nat) → List Char → Option (List Term)
  | 0, _ => none
  | _ + 1, [] => some []
  | room + 1, c :: rest =>
    if c == ' ' || c == '\t' || c == '\n' then terms? room rest
    else if c.isDigit then do
      let (n, rest) ← natural? true (c :: rest)
      return .number (clamp n) :: (← terms? room rest)
    else if c.isAlpha || c == '_' then do
      let name := (c :: rest).takeWhile fun c => c.isAlphanum || c == '_'
      return .name (String.ofList name) :: (← terms? room ((c :: rest).drop name.length))
    else do
      let symbol ← arithmeticSymbols.find? fun s => s.toList.isPrefixOf (c :: rest)
      return .symbol symbol :: (← terms? room ((c :: rest).drop symbol.length))

/-- Why an expression has no value. -/
inductive ArithmeticFault
  | malformed (message : String)
  | illegalNumber (text : String)

/-- How loosely an operator binds its operands. -/
def looseness? (symbol : String) : Option Nat :=
  match symbol with
  | "*" | "/" | "%" => some 0
  | "+" | "-" => some 1
  | "<" | "<=" | ">" | ">=" => some 2
  | "==" | "!=" => some 3
  | "&&" => some 4
  | "||" => some 5
  | _ => none

/-- The number of a truth value. -/
def truth (b : Bool) : Int := if b then 1 else 0

/-- The value of an operator; none for a division by zero. -/
def applyOperator? (symbol : String) (a b : Int) : Option Int :=
  match symbol with
  | "*" => some (wrap (a * b))
  | "/" => if b = 0 then none else some (wrap (Int.tdiv a b))
  | "%" => if b = 0 then none else some (Int.tmod a b)
  | "+" => some (wrap (a + b))
  | "-" => some (wrap (a - b))
  | "<" => some (truth (a < b))
  | "<=" => some (truth (a ≤ b))
  | ">" => some (truth (b < a))
  | ">=" => some (truth (b ≤ a))
  | "==" => some (truth (a == b))
  | "!=" => some (truth (a != b))
  | "&&" => some (truth (a != 0 && b != 0))
  | _ => some (truth (a != 0 || b != 0))

/-- The number in a variable; an empty one counts as zero. -/
def variableNumber (lookup : String → Option String) (name : String) :
    Except ArithmeticFault Int :=
  let text := (lookup name).getD ""
  if text.toList.all isBlankChar then .ok 0
  else
    match wholeInteger? true text with
    | some n => .ok n
    | none => .error (.illegalNumber text)

mutual

/-- A number, a variable, a sign with what follows it, or an expression in parentheses. -/
def primary (lookup : String → Option String) :
    (room : Nat) → List Term → Except ArithmeticFault (Int × List Term)
  | 0, _ => .error (.malformed "expecting primary")
  | room + 1, terms => do
    match terms with
    | .number n :: rest => return (n, rest)
    | .name name :: rest => return (← variableNumber lookup name, rest)
    | .symbol "+" :: rest => primary lookup room rest
    | .symbol "-" :: rest =>
      let (n, rest) ← primary lookup room rest
      return (wrap (-n), rest)
    | .symbol "!" :: rest =>
      let (n, rest) ← primary lookup room rest
      return (truth (n == 0), rest)
    | .symbol "(" :: rest =>
      let (n, rest) ← primary lookup room rest
      match ← operators lookup room n 6 rest with
      | (n, .symbol ")" :: rest) => return (n, rest)
      | _ => .error (.malformed "expecting ')'")
    | _ => .error (.malformed "expecting primary")

/-- The operators behind a value that bind tighter than `limit`. -/
def operators (lookup : String → Option String) :
    (room : Nat) → (a : Int) → (limit : Nat) → List Term → Except ArithmeticFault (Int × List Term)
  | 0, _, _, _ => .error (.malformed "expecting primary")
  | room + 1, a, limit, terms => do
    match terms with
    | .symbol symbol :: rest =>
      match (looseness? symbol).filter (· < limit) with
      | none => return (a, terms)
      | some level =>
        let (b, rest) ← primary lookup room rest
        let (b, rest) ← operators lookup room b level rest
        match applyOperator? symbol a b with
        | none => .error (.malformed "division by zero")
        | some value => operators lookup room value limit rest
    | _ => return (a, terms)

end

/-- The value of an expression. -/
def calculate (lookup : String → Option String) (text : String) : Except ArithmeticFault Int := do
  match terms? (text.length + 1) text.toList with
  | none => .error (.malformed "expecting primary")
  | some terms =>
    let room := 4 * (terms.length + 2)
    let (n, rest) ← primary lookup room terms
    match ← operators lookup room n 6 rest with
    | (n, []) => return n
    | _ => .error (.malformed "expecting EOF")

end Cartridge.Shell
