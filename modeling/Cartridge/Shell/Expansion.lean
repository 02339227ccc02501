import Cartridge.Shell.Arithmetic
import Cartridge.Shell.Pattern
import Cartridge.Shell.State

/-!
# Expansion of words

The parts of a word become characters that still know where they come from.  The value of a part
that is not quoted may be cut into fields, and characters that are not quoted may form a pattern
for the names of files.
-/

namespace Cartridge.Shell

open Cartridge.Files (FileTree Location)

/-- A character of an expanded word, or something between characters. -/
inductive Glyph
  /-- A character; a soft one comes from a value and may end a field. -/
  | char (c : Char) (quoted soft : Bool)
  /-- The end of an argument among all of them. -/
  | gap
  /-- Something that is there even when it is empty. -/
  | anchor

/-- The characters of a text. -/
def glyphs (quoted soft : Bool) (s : String) : List Glyph :=
  s.toList.map fun c => .char c quoted soft

/-- The pattern of glyphs that are not cut into fields. -/
def marks (word : List Glyph) : List Mark :=
  word.filterMap fun
    | .char c quoted _ => some ⟨c, !quoted⟩
    | .gap => some ⟨' ', false⟩
    | .anchor => none

/-- The text of glyphs that are not cut into fields. -/
def plainGlyphs (word : List Glyph) : String :=
  String.ofList ((marks word).map (·.char))

/-- Runs a command for what it prints. -/
abbrev Substitute := Command → State → String × State

/-! ## Parameters -/

/-- The value of a parameter. -/
def parameter? (state : State) (name : String) : Option String :=
  match name with
  | "@" | "*" =>
    if state.arguments.isEmpty then none else some (" ".intercalate state.arguments)
  | "#" => some (toString state.arguments.length)
  | "?" => some (toString state.status)
  | "$" => some (toString state.process)
  | "-" => some (String.ofList state.options)
  | "0" => some state.name
  | name =>
    match String.toNat? name with
    | some n => state.arguments[n - 1]?
    | none => state.value? name

/-- The glyphs of a value; all arguments stay apart, unless they stand between quotes as one. -/
def valueGlyphs (state : State) (name value : String) (quoted : Bool) : List Glyph :=
  if name == "@" || (name == "*" && !quoted) then
    let fields := state.arguments.map fun arg =>
      (if quoted then [.anchor] else []) ++ glyphs quoted (!quoted) arg
    (List.intersperse [Glyph.gap] fields).flatten
  else glyphs quoted (!quoted) value

/-- The text of the value of an expression. -/
def arithmeticValue (state : State) (text : String) : String × State :=
  match calculate state.value? text with
  | .ok n => (toString n, state)
  | .error (.malformed message) =>
    ("", state.fail ("arithmetic expression: " ++ message ++ ": \"" ++ text ++ "\""))
  | .error (.illegalNumber value) => ("", state.fail ("Illegal number: " ++ value))

/-- What a substitution puts in: the printed text without zeros, and without ends of lines at its
end. -/
def substitutionText (printed : String) : String :=
  let chars := printed.toList.filter fun c => c.toNat != 0
  String.ofList (chars.reverse.dropWhile (· == '\n')).reverse

mutual

/-- The glyphs of parts.  With `soft` also plain text may be cut into fields. -/
def expandParts (substitute : Substitute) (soft : Bool) :
    List Part → State → List Glyph × State
  | [], state => ([], state)
  | part :: rest, state =>
    let (first, state) := expandPart substitute soft part state
    if state.jump.isSome then ([], state)
    else
      let (others, state) := expandParts substitute soft rest state
      (first ++ others, state)

/-- The glyphs of a part. -/
def expandPart (substitute : Substitute) (soft : Bool) : Part → State → List Glyph × State
  | .text s quoted, state =>
    (if quoted then .anchor :: glyphs true false s else glyphs false soft s, state)
  | .substitution body quoted, state =>
    let (text, state) := substitute body state
    (glyphs quoted (!quoted) (substitutionText text), state)
  | .arithmetic expression quoted, state =>
    let (word, state) := expandParts substitute false expression state
    if state.jump.isSome then ([], state)
    else
      let (text, state) := arithmeticValue state (plainGlyphs word)
      (glyphs quoted (!quoted) text, state)
  | .parameter name use quoted, state => expandUse substitute name quoted use state

/-- The glyphs of the use of a parameter. -/
def expandUse (substitute : Substitute) (name : String) (quoted : Bool) :
    Use → State → List Glyph × State
  | use, state =>
    let value := parameter? state name
    let missing (orEmpty : Bool) : Bool := value.isNone || (orEmpty && value == some "")
    let found : List Glyph := valueGlyphs state name (value.getD "") quoted
    let isUnset := value.isNone && state.has 'u' && name != "@" && name != "*"
    let unset : List Glyph × State := ([], state.fail (name ++ ": parameter not set"))
    match use with
    | .invalid => ([], state.fail "Bad substitution")
    | .value => if isUnset then unset else (found, state)
    | .length =>
      if isUnset then unset
      else (glyphs quoted (!quoted) (toString (value.getD "").length), state)
    | .default orEmpty word =>
      if missing orEmpty then expandParts substitute (!quoted) word state else (found, state)
    | .alternative orEmpty word =>
      if missing orEmpty then ([], state) else expandParts substitute (!quoted) word state
    | .trim atEnd longest pattern =>
      if isUnset then unset
      else
        let (expanded, state) := expandParts substitute false pattern state
        let kept := trimPattern (marks expanded) atEnd longest (value.getD "").toList
        (glyphs quoted (!quoted) (String.ofList kept), state)

end

/-! ## Fields -/

/-- The state of the cutting: finished fields and the current one, all backwards. -/
structure Cutting where
  fields : List (List Glyph) := []
  current : List Glyph := []
  /-- A separator that is no blank still belongs to the field before. -/
  isOpen : Bool := false

/-- One glyph more.  Blanks that cut are taken together, also around another separator. -/
def Cutting.step (separators : List Char) (cutting : Cutting) (glyph : Glyph) : Cutting :=
  let finish (isOpen : Bool) : Cutting :=
    ⟨cutting.current.reverse :: cutting.fields, [], isOpen⟩
  match glyph with
  | .gap => if cutting.current.isEmpty then cutting else finish false
  | .char c _ true =>
    if !separators.contains c then ⟨cutting.fields, glyph :: cutting.current, false⟩
    else if c == ' ' || c == '\t' || c == '\n' then
      if cutting.current.isEmpty then cutting else finish true
    else if cutting.isOpen then { cutting with isOpen := false }
    else finish false
  | glyph => ⟨cutting.fields, glyph :: cutting.current, false⟩

/-- The fields of a word. -/
def cutFields (separators : List Char) (word : List Glyph) : List (List Glyph) :=
  let cutting := word.foldl (Cutting.step separators) {}
  (if cutting.current.isEmpty then cutting.fields
    else cutting.current.reverse :: cutting.fields).reverse

/-! ## Names of files -/

/-- The names in a folder, in order. -/
def folderNames (tree : FileTree) (place : Location) : List String :=
  (tree.entries.filterMap fun entry =>
    match place.isPrefixOf? entry.1 with
    | some [name] => some (ofWritten name)
    | _ => none).mergeSort fun a b => a ≤ b

/-- The pieces of a pattern between slashes. -/
def patternPieces : List Mark → List (List Mark)
  | [] => [[]]
  | m :: rest =>
    match patternPieces rest with
    | piece :: more => if m.char == '/' then [] :: piece :: more else (m :: piece) :: more
    | [] => [[m]]

/-- The names in the folder that fit a piece of a pattern; a name that starts with a point has to be
asked for. -/
def fittingNames (tree : FileTree) (folder : String) (piece : List Mark) : List String :=
  let path := pathOf (if folder == "" then "." else folder)
  let asksForPoint := piece.head?.any (·.char == '.')
  match tree.isFolder path, tree.locate path with
  | true, .ok place =>
    (folderNames tree place).filter fun name =>
      (name.toList.head? == some '.') == asksForPoint && patternFits piece name.toList
  | _, _ => []

/-- The paths that pieces of a pattern fit, behind the given start. -/
def fittingPaths (tree : FileTree) : List (List Mark) → (start : String) → List String
  | [], start => if tree.pathExists (pathOf start) then [start] else []
  | piece :: rest, start =>
    let names := if piece.any Mark.isWild then fittingNames tree start piece
      else [String.ofList (piece.map (·.char))]
    names.flatMap fun name =>
      fittingPaths tree rest (start ++ name ++ if rest.isEmpty then "" else "/")

/-- The texts that a field stands for: the names of files that it fits as a pattern, or itself. -/
def fieldTexts (state : State) (field : List Glyph) : List String :=
  let pattern := marks field
  if state.has 'f' || !pattern.any Mark.isWild then [plainGlyphs field]
  else
    let paths := fittingPaths state.tree (patternPieces pattern) ""
    if paths.isEmpty then [plainGlyphs field] else paths

/-! ## Words -/

/-- The fields that words stand for. -/
def expandWords (substitute : Substitute) : List Word → State → List String × State
  | [], state => ([], state)
  | word :: rest, state =>
    let (expanded, state) := expandParts substitute false word state
    if state.jump.isSome then ([], state)
    else
      let first := (cutFields state.separators expanded).flatMap (fieldTexts state)
      let (others, state) := expandWords substitute rest state
      (first ++ others, state)

/-- The text of a word that is not cut into fields. -/
def expandText (substitute : Substitute) (word : Word) (state : State) : String × State :=
  let (expanded, state) := expandParts substitute false word state
  (plainGlyphs expanded, state)

/-- The pattern that a word stands for. -/
def expandPattern (substitute : Substitute) (word : Word) (state : State) :
    List Mark × State :=
  let (expanded, state) := expandParts substitute false word state
  (marks expanded, state)

end Cartridge.Shell
