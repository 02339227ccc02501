import Cartridge.Shell.Command
import Cartridge.Text.Pieces

/-!
# Reading scripts

The text of a script is read command by command; a command that cannot be read does not keep those
before it from being run.  Quotes and the value of parameters may span lines, and documents that
are part of the script stand behind the line that redirects a stream from them.

The readers that contain each other are given as a record for every depth.  Each of them takes a
character before it enters one of the depth below, so the length of the text bounds the depth.
-/

namespace Cartridge.Shell

/-- Why a script cannot be read. -/
structure SyntaxFault where
  line : Nat
  message : String

/-- A piece of a script. -/
inductive Token
  | finish
  | newline
  | word (parts : Word)
  | keyword (name : String)
  | operator (symbol : String)
  /-- A redirection; its stream is known where a digit stands before it. -/
  | redirect (stream : Option Nat) (symbol : String)

/-- A document that is still to be read. -/
structure PendingDocument where
  number : Nat
  /-- The line that ends the document. -/
  mark : String
  /-- Nothing in the document stands for a value. -/
  plain : Bool

/-- What is left of a script, and what has been read of it. -/
structure Source where
  rest : List Char
  line : Nat := 1
  /-- A piece that has been looked at. -/
  peeked : Option Token := none
  pending : List PendingDocument := []
  documents : Array Word := #[]

/-- A reader of a part of a script. -/
abbrev Reader (α : Type) := StateT Source (Except SyntaxFault) α

/-- Where parts of a word stand, which decides what ends them. -/
inductive Context
  | bare
  | quotes
  | document
  /-- Between the braces of a parameter. -/
  | braces (quoted : Bool)
  /-- In an expression; one in parentheses inside of another ends with a single one. -/
  | arithmetic (inner : Bool)

/-- How a list of commands ends: with its line, at a piece that ends it, or there after at least one
command. -/
inductive ListKind
  | line
  | maybeEmpty
  | body
  deriving DecidableEq

/-- The readers that contain each other. -/
structure Readers where
  parts : Context → Reader Word
  list : ListKind → Reader Command
  unit : Reader Command

namespace Reader

/-- The script cannot be read at the line that has been reached. -/
def fail (message : String) : Reader α := do
  throw ⟨(← get).line, message⟩

/-- Leaves a token for the next one who asks. -/
def putBack (token : Token) : Reader Unit :=
  modify fun source => { source with peeked := some token }

/-- Moves over a text that may span lines. -/
def moveOver (text rest : List Char) : Reader Unit :=
  modify fun source => { source with rest := rest, line := source.line + text.count '\n' }

/-- Moves on to the given characters of the same line. -/
def move (rest : List Char) : Reader Unit :=
  moveOver [] rest

/-- What a step reads until it finds nothing more, at most `room` times. -/
def upTo (step : Reader (Option α)) : (room : Nat) → Reader (List α)
  | 0 => fail "Syntax error: too long"
  | room + 1 => do
    match ← step with
    | none => return []
    | some a => return a :: (← upTo step room)

/-- What a step reads until it finds nothing more. -/
def many (step : Reader (Option α)) : Reader (List α) := do
  upTo step ((← get).rest.length + 3)

end Reader

/-! ## Characters -/

/-- A character that a name may start with. -/
def isNameStart (c : Char) : Bool :=
  c.isAlpha || c == '_'

/-- A character of a name. -/
def isNameChar (c : Char) : Bool :=
  c.isAlphanum || c == '_'

/-- A text that may name a variable or a function. -/
def isName (s : String) : Bool :=
  match s.toList with
  | [] => false
  | c :: rest => isNameStart c && rest.all isNameChar

/-- Parameters that are named by one character. -/
def isSpecialName (c : Char) : Bool :=
  c.isDigit || "@*#?$-".toList.contains c

/-- A character that does not stand for itself in the context. -/
def Context.isActive (context : Context) (c : Char) : Bool :=
  if c == '\\' || c == '$' then true
  else
    match context with
    | .bare => "'\" \t\n;&|<>()".toList.contains c
    | .quotes => c == '"'
    | .document => false
    | .braces quoted => c == '\x7d' || c == '"' || (c == '\'' && !quoted)
    | .arithmetic _ => c == '(' || c == ')'

/-- Text in the context is kept from being cut and its characters are plain. -/
def Context.isQuoted : Context → Bool
  | .bare => false
  | .braces quoted => quoted
  | _ => true

/-- What is said where the script ends inside of the context, if it may not. -/
def Context.missingEnd? : Context → Option String
  | .bare | .document => none
  | .braces false => some "Missing '\x7d'"
  | .arithmetic _ => some "Missing '))'"
  | _ => some "Unterminated quoted string"

/-- A backslash makes the character plain in the context. -/
def Context.escapes (context : Context) (c : Char) : Bool :=
  match context with
  | .bare | .braces false => true
  | .document => c == '$' || c == '\x60' || c == '\\'
  | .braces true => "$\x60\"\\\x7d".toList.contains c
  | .quotes | .arithmetic _ => "$\x60\"\\".toList.contains c

/-! ## Words -/

/-- A double quote adds an empty text, so that an empty value is still there; the list of all
arguments alone may be empty. -/
def quotedParts : Word → Word
  | [.parameter "@" .value true] => [.parameter "@" .value true]
  | parts => .text "" true :: parts

/-- The text of a word that is nothing but text outside of quotes. -/
def plainText? : Word → Option String
  | [.text s false] => some s
  | _ => none

/-- Joins neighbouring texts outside of quotes. -/
def joinTexts : Word → Word
  | [] => []
  | part :: rest =>
    match part, joinTexts rest with
    | .text a false, .text b false :: rest => .text (a ++ b) false :: rest
    | part, rest => part :: rest

/-- The operator behind the name of a parameter: what it makes of a word, whether the word is a
pattern, and what follows.  A pattern is read as if it stood outside of quotes. -/
def parameterOperator? (text : List Char) : Option ((Word → Use) × Bool × List Char) :=
  match text with
  | '%' :: '%' :: rest => some (.trim true true, true, rest)
  | '%' :: rest => some (.trim true false, true, rest)
  | '#' :: '#' :: rest => some (.trim false true, true, rest)
  | '#' :: rest => some (.trim false false, true, rest)
  | ':' :: '-' :: rest => some (.default true, false, rest)
  | ':' :: '+' :: rest => some (.alternative true, false, rest)
  | '-' :: rest => some (.default false, false, rest)
  | '+' :: rest => some (.alternative false, false, rest)
  | _ => none

/-- The name of a parameter at the start of a text, and what follows it. -/
def parameterName? (text : List Char) : Option (String × List Char) :=
  match text with
  | [] => none
  | c :: rest =>
    if isNameStart c then
      some (String.ofList (text.takeWhile isNameChar), text.dropWhile isNameChar)
    else if isSpecialName c then some (String.singleton c, rest)
    else none

/-- The name at the start of a parameter between braces, whether its length is asked for, and what
follows it. -/
def bracedName? (text : List Char) : Option (String × Bool × List Char) :=
  match text with
  | '#' :: c :: rest =>
    if isNameChar c then
      (parameterName? (c :: rest)).map fun (name, rest) => (name, true, rest)
    else some ("#", false, c :: rest)
  | text => (parameterName? text).map fun (name, rest) => (name, false, rest)

/-- The value of a word that has no values to be put in. -/
def literalText (word : Word) : String :=
  String.join (word.map fun
    | .text s _ => s
    | _ => "")

/-- Some text of the word stands between quotes. -/
def hasQuotes (word : Word) : Bool :=
  word.any fun
    | .text _ quoted => quoted
    | _ => false

/-- Splits an assignment at its equals sign. -/
def assignment? : Word → Option (String × Word)
  | .text s false :: parts =>
    let name := s.toList.takeWhile isNameChar
    match s.toList.drop name.length with
    | '=' :: value =>
      if isName (String.ofList name) then
        some (String.ofList name,
          if value.isEmpty then parts else .text (String.ofList value) false :: parts)
      else none
    | _ => none
  | _ => none

/-! ## Pieces -/

/-- Words that belong to the structure of commands. -/
def keywords : List String :=
  ["!", "case", "do", "done", "elif", "else", "esac", "fi", "for", "if", "in", "then", "until",
    "while", "\x7b", "\x7d"]

/-- The operator at the start of a text. -/
def operator? : List Char → Option (String × List Char)
  | '&' :: '&' :: rest => some ("&&", rest)
  | '|' :: '|' :: rest => some ("||", rest)
  | ';' :: ';' :: rest => some (";;", rest)
  | c :: rest => if ";&|()".toList.contains c then some (String.singleton c, rest) else none
  | [] => none

/-- The symbol of a redirection at the start of a text. -/
def redirection? : List Char → Option (String × List Char)
  | '>' :: '>' :: rest => some (">>", rest)
  | '>' :: '&' :: rest => some (">&", rest)
  | '>' :: rest => some (">", rest)
  | '<' :: '<' :: rest => some ("<<", rest)
  | '<' :: rest => some ("<", rest)
  | _ => none

/-- The redirection at the start of a text, with a digit for its stream. -/
def streamRedirection? (text : List Char) : Option (Option Nat × String × List Char) :=
  match text with
  | c :: rest =>
    if c.isDigit then
      (redirection? rest).map fun (symbol, rest) => (some (c.toNat - '0'.toNat), symbol, rest)
    else (redirection? text).map fun (symbol, rest) => (none, symbol, rest)
  | [] => none

/-- What a piece is called in a message. -/
def Token.label : Token → String
  | .finish => "end of file"
  | .newline => "newline"
  | .word _ => "word"
  | .keyword name => "\"" ++ name ++ "\""
  | .operator symbol => "\"" ++ symbol ++ "\""
  | .redirect _ _ => "redirection"

/-- A piece that does not belong where it stands. -/
def unexpected (token : Token) (expected : Option String) : Reader α :=
  Reader.fail ("Syntax error: " ++ token.label ++ " unexpected" ++
    match expected with
    | some text => " (expecting \"" ++ text ++ "\")"
    | none => "")

/-- Commands of the shell that end a script when they fail. -/
def specialNames : List String :=
  [":", "break", "continue", "exit", "export", "return", "set", "shift", "unset"]

/-- A piece that ends a list of commands. -/
def endsList : Token → Bool
  | .finish => true
  | .keyword name => ["do", "done", "elif", "else", "esac", "fi", "then", "\x7d"].contains name
  | .operator symbol => symbol == ")" || symbol == ";;"
  | _ => false

/-- Passes over blanks, a comment and lines that go on in the next one. -/
def skipBlanks : List Char → List Char
  | ' ' :: rest | '\t' :: rest | '\\' :: '\n' :: rest => skipBlanks rest
  | '#' :: rest => rest.dropWhile (· != '\n')
  | rest => rest

/-- The lines of a document up to its mark, and what follows them. -/
def documentLines (mark : String) : (room : Nat) → List Char → List Char × List Char
  | 0, text => ([], text)
  | _ + 1, [] => ([], [])
  | room + 1, text =>
    let line := text.takeWhile (· != '\n')
    let after := text.drop line.length
    if String.ofList line == mark then ([], after.drop 1)
    else
      let (others, rest) := documentLines mark room (after.drop 1)
      (line ++ (if after.isEmpty then [] else '\n' :: others), rest)

namespace Readers

variable (r : Readers)

/-- Reads the document that was asked for first. -/
def document : Reader (Option Unit) := do
  let source ← get
  match source.pending with
  | [] => return none
  | document :: pending =>
    let (text, rest) := documentLines document.mark (source.rest.length + 1) source.rest
    let used := source.rest.take (source.rest.length - rest.length)
    let word : Word ←
      if document.plain then pure [.text (String.ofList text) true]
      else do
        set { source with rest := text, pending := pending }
        r.parts .document
    set { source with
      rest := rest
      line := source.line + used.count '\n'
      pending := pending
      documents := (← get).documents.set! document.number word }
    return some ()

/-- Reads the next piece from the characters. -/
def scanToken : Reader Token := do
  let before := (← get).rest
  let rest := skipBlanks before
  Reader.moveOver (before.take (before.length - rest.length)) rest
  match rest with
  | [] => return .finish
  | '\n' :: rest =>
    Reader.moveOver ['\n'] rest
    let _ ← Reader.many r.document
    return .newline
  | rest =>
    match streamRedirection? rest, operator? rest with
    | some (stream, symbol, rest), _ => Reader.move rest; return .redirect stream symbol
    | none, some (symbol, rest) => Reader.move rest; return .operator symbol
    | none, none => return .word (joinTexts (← r.parts .bare))

/-- Reads the next piece, where words may be keywords. -/
def token (isKeyword : Bool) : Reader Token := do
  let token ← match (← get).peeked with
    | some token =>
      modify fun source => { source with peeked := none }
      pure token
    | none => r.scanToken
  match token with
  | .word parts =>
    match (plainText? parts).filter keywords.contains, isKeyword with
    | some name, true => return .keyword name
    | _, _ => return .word parts
  | token => return token

/-- Passes over ends of lines. -/
def passLines : Reader Unit := do
  let _ ← Reader.many (do
    match ← r.token false with
    | .newline => return some ()
    | token => Reader.putBack token; return none)

/-- Reads a piece that has to be there. -/
def expect (expected : String) : Reader Unit := do
  match ← r.token (expected != ")") with
  | .keyword name =>
    if name == expected then pure () else unexpected (.keyword name) (some expected)
  | .operator symbol =>
    if symbol == expected then pure () else unexpected (.operator symbol) (some expected)
  | token => unexpected token (some expected)

/-- Reads what a dollar sign puts in. -/
def dollar (quoted : Bool) : Reader Part := do
  match (← get).rest with
  | '(' :: '(' :: rest =>
    Reader.move rest
    return .arithmetic (← r.parts (.arithmetic false)) quoted
  | '(' :: rest =>
    let outer ← get
    set { outer with rest := rest, peeked := none, pending := [] }
    let body ← r.list .maybeEmpty
    r.expect ")"
    modify fun source => { source with pending := outer.pending, peeked := outer.peeked }
    return .substitution body quoted
  | '\x7b' :: rest =>
    let (name, length, after) := (bracedName? rest).getD ("", true, rest)
    let (use, isPattern, after) := match length, parameterOperator? after with
      | false, some operator => operator
      | true, _ => (fun word => if word.isEmpty then Use.length else .invalid, false, after)
      | false, none => (fun word => if word.isEmpty then Use.value else .invalid, false, after)
    Reader.move after
    let word ← r.parts (.braces (quoted && !isPattern))
    return .parameter name (use (joinTexts word)) quoted
  | rest =>
    match parameterName? rest with
    | some (name, rest) => Reader.move rest; return .parameter name .value quoted
    | none => return .text "$" quoted

/-- Reads the next parts of a word, if its context goes on. -/
def nextParts (context : Context) : Reader (Option Word) := do
  let quoted := context.isQuoted
  match (← get).rest with
  | [] =>
    match context.missingEnd? with
    | none => return none
    | some message => Reader.fail ("Syntax error: " ++ message)
  | c :: rest =>
    if !context.isActive c then
      let text := (c :: rest).takeWhile fun c => !context.isActive c
      Reader.moveOver text ((c :: rest).drop text.length)
      return some [.text (String.ofList text) quoted]
    else
      match context, c, rest with
      | _, '\\', '\n' :: rest => Reader.moveOver ['\n'] rest; return some []
      | context, '\\', rest =>
        let kept := match rest with
          | d :: _ => if context.escapes d then [d] else ['\\', d]
          | [] => ['\\']
        Reader.move (rest.drop 1)
        return some [.text (String.ofList kept) true]
      | _, '$', rest => Reader.move rest; return some [← r.dollar quoted]
      | .arithmetic _, '(', rest =>
        Reader.move rest
        return some (.text "(" true :: (← r.parts (.arithmetic true)) ++ [.text ")" true])
      | .arithmetic inner, _, rest =>
        match inner, rest with
        | true, rest | false, ')' :: rest => Reader.move rest; return none
        | false, _ => Reader.fail "Syntax error: Missing '))'"
      | .quotes, _, rest => Reader.move rest; return none
      | .braces _, '\x7d', rest => Reader.move rest; return none
      | _, '\'', rest =>
        let text := rest.takeWhile (· != '\'')
        match rest.drop text.length with
        | [] => Reader.fail "Syntax error: Unterminated quoted string"
        | _ :: after =>
          Reader.moveOver text after
          return some [.text (String.ofList text) true]
      | _, '"', rest =>
        Reader.move rest
        return some (quotedParts (← r.parts .quotes))
      | _, _, _ => return none

/-! ## Commands -/

/-- Reads the target of a redirection. -/
def redirect (stream : Option Nat) (symbol : String) : Reader Redirect := do
  let stream := stream.getD (if symbol == "<" || symbol == "<<" then 0 else 1)
  match ← r.token false, symbol with
  | .word target, "<<" =>
    let number := (← get).documents.size
    modify fun source => { source with
      documents := source.documents.push []
      pending := source.pending ++ [⟨number, literalText target, hasQuotes target⟩] }
    return .mk stream (.document number) []
  | .word target, "<" => return .mk stream .read target
  | .word target, ">" => return .mk stream .write target
  | .word target, ">>" => return .mk stream .append target
  | .word target, _ => return .mk stream .duplicate target
  | token, _ => unexpected token none

/-- Reads a word or a redirection of a simple command. -/
def nextOperand : Reader (Option (Word ⊕ Redirect)) := do
  match ← r.token false with
  | .word parts => return some (.inl parts)
  | .redirect stream symbol => return some (.inr (← r.redirect stream symbol))
  | token => Reader.putBack token; return none

/-- Reads a simple command, or the definition of a function. -/
def simple (line : Nat) : Reader Command := do
  let operands ← Reader.many r.nextOperand
  let words := operands.filterMap Sum.getLeft?
  let redirects := operands.filterMap Sum.getRight?
  let assignments := words.map assignment? |>.takeWhile Option.isSome |>.filterMap id
  let words := words.drop assignments.length
  match words, assignments, redirects, ← r.token false with
  | [word], [], [], .operator "(" =>
    r.expect ")"
    match (plainText? word).filter fun name => isName name && !specialNames.contains name with
    | none => Reader.fail "Syntax error: Bad function name"
    | some name =>
      r.passLines
      return .define name (← r.unit)
  | words, assignments, redirects, token =>
    Reader.putBack token
    return .simple line assignments words redirects

/-- Reads a list of commands up to a keyword that has to follow it. -/
def bodyUpTo (final : String) : Reader Command := do
  let body ← r.list .body
  r.expect final
  return body

/-- Reads a test with its branch. -/
def branch : Reader (Command × Command) := do
  return (← r.bodyUpTo "then", ← r.list .body)

/-- Reads a condition behind its keyword. -/
def condition : Reader Command := do
  let first ← r.branch
  let others ← Reader.many (do
    match ← r.token true with
    | .keyword "elif" => return some (← r.branch)
    | token => Reader.putBack token; return none)
  let no : Option Command ← match ← r.token true with
    | .keyword "else" => pure (some (← r.list .body))
    | token => do Reader.putBack token; pure none
  r.expect "fi"
  let no := others.foldr (fun branch no => some (.conditional branch.1 branch.2 no)) no
  return .conditional first.1 first.2 no

/-- Reads an item of a loop. -/
def nextItem : Reader (Option Word) := do
  match ← r.token false with
  | .word parts => return some parts
  | .newline | .operator ";" => return none
  | token => unexpected token none

/-- Reads a loop over items behind its keyword. -/
def forEach (line : Nat) : Reader Command := do
  match ← r.token false with
  | .word parts =>
    match (plainText? parts).filter isName with
    | none => Reader.fail "Syntax error: Bad for loop variable"
    | some name =>
      r.passLines
      let items : Option (List Word) ← match ← r.token true with
        | .keyword "in" => pure (some (← Reader.many r.nextItem))
        | .operator ";" => pure none
        | token => do Reader.putBack token; pure none
      r.passLines
      r.expect "do"
      return .forEach line name items (← r.bodyUpTo "done")
  | _ => Reader.fail "Syntax error: Bad for loop variable"

/-- Reads the patterns of a branch up to their parenthesis, at most `room` of them. -/
def patterns : (room : Nat) → Token → Reader (List Word)
  | 0, token => unexpected token none
  | room + 1, first => do
    let pattern : Word ← match first with
      | .word parts => pure parts
      | .keyword name => pure [.text name false]
      | token => unexpected token none
    match ← r.token false with
    | .operator "|" => return pattern :: (← patterns room (← r.token false))
    | .operator ")" => return [pattern]
    | token => unexpected token (some ")")

/-- Reads the next branch of a selection. -/
def nextBranch : Reader (Option (List Word × Command)) := do
  r.passLines
  match ← r.token true with
  | .keyword "esac" => return none
  | token =>
    let first ← match token with
      | .operator "(" => r.token false
      | token => pure token
    let patterns ← r.patterns ((← get).rest.length + 1) first
    let body ← r.list .maybeEmpty
    r.passLines
    match ← r.token true with
    | .operator ";;" => return some (patterns, body)
    | .keyword "esac" =>
      Reader.putBack (.keyword "esac")
      return some (patterns, body)
    | token => unexpected token (some ";;")

/-- Reads a selection behind its keyword. -/
def selection (line : Nat) : Reader Command := do
  match ← r.token false with
  | .word subject =>
    r.passLines
    r.expect "in"
    return .selection line subject (← Reader.many r.nextBranch)
  | token => Reader.fail ("Syntax error: " ++ token.label ++ " unexpected (expecting word)")

/-- Reads a command that is no list. -/
def readUnit : Reader Command := do
  let token ← r.token true
  let line := (← get).line
  let body : Command ← match token with
    | .keyword "if" => r.condition
    | .keyword "while" => do pure (.repeated true (← r.bodyUpTo "do") (← r.bodyUpTo "done"))
    | .keyword "until" => do pure (.repeated false (← r.bodyUpTo "do") (← r.bodyUpTo "done"))
    | .keyword "for" => r.forEach line
    | .keyword "case" => r.selection line
    | .keyword "\x7b" => r.bodyUpTo "\x7d"
    | .operator "(" => do pure (.enclosed (← r.bodyUpTo ")"))
    | .word _ | .redirect _ _ => do Reader.putBack token; r.simple line
    | token => unexpected token none
  let redirects ← Reader.many (do
    match ← r.token true with
    | .redirect stream symbol => return some (← r.redirect stream symbol)
    | token => Reader.putBack token; return none)
  return if redirects.isEmpty then body else .redirected line body redirects

/-- Reads a pipe, which may be negated. -/
def pipe : Reader Command := do
  let negated ← match ← r.token true with
    | .keyword "!" => pure true
    | token => do Reader.putBack token; pure false
  let first ← r.unit
  let others ← Reader.many (do
    match ← r.token false with
    | .operator "|" => r.passLines; return some (← r.unit)
    | token => Reader.putBack token; return none)
  let body := if others.isEmpty then first else .piped (first :: others)
  return if negated then .negated body else body

/-- Reads pipes that are joined by what they answer. -/
def chain : Reader Command := do
  let first ← r.pipe
  let others ← Reader.many (do
    match ← r.token false with
    | .operator "&&" => r.passLines; return some (true, ← r.pipe)
    | .operator "||" => r.passLines; return some (false, ← r.pipe)
    | token => Reader.putBack token; return none)
  return others.foldl (fun first next =>
    if next.1 then .both first next.2 else .either first next.2) first

/-- Reads a list of commands. -/
def readList (kind : ListKind) : Reader Command := do
  if kind != .line then r.passLines
  let token ← r.token true
  Reader.putBack token
  match token with
  | .newline =>
    let _ ← r.token true
    return .idle
  | .finish => return .idle
  | token =>
    if kind == .maybeEmpty && endsList token then return .idle
    let first ← r.chain
    let joined : Reader Command := do
      match ← r.list (if kind == .line then .line else .maybeEmpty) with
      | .idle => return first
      | second => return .sequence first second
    match ← r.token true with
    | .operator ";" => joined
    | .newline => if kind == .line then return first else joined
    | token =>
      let ends := match token with
        | .finish => true
        | _ => kind != .line
      if !ends then unexpected token none
      Reader.putBack token
      return first

/-- The readers of a depth. -/
def atDepth : (depth : Nat) → Readers
  | 0 =>
    { parts := fun _ => Reader.fail "Syntax error: too long"
      list := fun _ => Reader.fail "Syntax error: too long"
      unit := Reader.fail "Syntax error: too long" }
  | depth + 1 =>
    let inner := atDepth depth
    { parts := fun context => return (← Reader.many (inner.nextParts context)).flatten
      list := inner.readList
      unit := inner.readUnit }

end Readers

/-- Reads the next line of commands of a script, if there is one. -/
def Source.next? (source : Source) : Except SyntaxFault (Option (Command × Source)) :=
  match source.rest, source.peeked with
  | [], _ => .ok none
  | _, some .finish => .ok none
  | _, _ =>
    (((Readers.atDepth (2 * source.rest.length + 8)).list .line).run source).map some

end Cartridge.Shell
