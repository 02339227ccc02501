import Cartridge.Compile.Error
import Cartridge.Script.Lowering
import Cartridge.Source.WordProduct

/-!
# Generated files

A generated file is a list of lines.  A line is made of pieces, so that what a file refers to can
be read off: the header it includes and the data it points to.

A file set holds files by name, in the order in which they were added; a name can be added once, and
only a file whose products all fit can be added.
-/

namespace Cartridge.Source

open Cartridge.Compile (Error)

/-- A piece of a line. -/
inductive Piece
  | text (s : String)
  /-- The directive that includes the header of generated data. -/
  | include (header : String)
  /-- A pointer to data in any bank, or to nothing. -/
  | pointer (symbol : Option String)

/-- A pointer to nothing. -/
def nullPointer : String := "\x7b .bank = 0, .ptr = 0 \x7d"

/-- The text of a piece. -/
def Piece.render : Piece → String
  | .text s => s
  | .include header => "#include \"data/" ++ header ++ ".h\""
  | .pointer (some symbol) => "TO_FAR_PTR_T(" ++ symbol ++ ")"
  | .pointer none => nullPointer

/-- A line. -/
abbrev Line := List Piece

/-- A line of plain text. -/
def line (s : String) : Line := [.text s]

/-- An empty line. -/
def blank : Line := []

/-- The text of a line. -/
def renderLine (pieces : Line) : String :=
  String.join (pieces.map Piece.render) ++ "\n"

/-- The text of lines. -/
def renderLines (lines : List Line) : String :=
  String.join (lines.map renderLine)

/-- A generated file. -/
structure File where
  name : String
  /-- The symbols that the file defines. -/
  defines : List String := []
  lines : List Line
  /-- The products among the numbers of the file. -/
  products : List WordProduct := []

namespace File

/-- No product of the file overflows its word. -/
def fits (file : File) : Bool :=
  file.products.all WordProduct.fits

/-- The text of a file. -/
def text (file : File) : String :=
  renderLines file.lines

/-- The headers that a file includes. -/
def includes (file : File) : List String :=
  file.lines.flatten.filterMap fun
    | .include header => some header
    | _ => none

/-- The symbols that a file points to. -/
def pointers (file : File) : List String :=
  file.lines.flatten.filterMap fun
    | .pointer symbol => symbol
    | _ => none

end File

/-! ## Scripts -/

/-- The header of a script. -/
def scriptHeaderLines (symbol : String) : List Line :=
  let mark := "SCRIPT_" ++ Text.upper symbol ++ "_H"
  [line ("#ifndef " ++ mark), line ("#define " ++ mark), blank, line ("// Script " ++ symbol),
    blank, line "#include \"gbs_types.h\"", line "#include \"bankdata.h\"", blank,
    line ("BANKREF_EXTERN(" ++ symbol ++ ")"),
    line ("extern const unsigned char " ++ symbol ++ "[];"), blank, line "#endif"]

/-- The files of a compiled script. -/
def scriptFiles (script : Script.Compiled) : List File :=
  [{ name := script.symbol ++ ".s"
     defines := [script.symbol]
     lines := script.lines.map line },
    { name := script.symbol ++ ".h", lines := scriptHeaderLines script.symbol }]

/-! ## File sets -/

/-- Files by name, in the order in which they were added. -/
structure FileSet where
  files : List (String × String) := []

namespace FileSet

/-- The text of a file by its name. -/
def get? (set : FileSet) (name : String) : Option String :=
  set.files.lookup name

/-- There is a file of the name. -/
def contains (set : FileSet) (name : String) : Bool :=
  (set.get? name).isSome

/-- Adds a file, whose name has to be new. -/
def insert (set : FileSet) (name text : String) : Except Error FileSet :=
  if set.contains name then .error (.duplicateFile name)
  else .ok ⟨set.files ++ [(name, text)]⟩

/-- Adds files until one has a name that is taken; gives the set reached and the error. -/
def insertAll (set : FileSet) : List (String × String) → FileSet × Option Error
  | [] => (set, none)
  | (name, text) :: rest =>
    match set.insert name text with
    | .ok set => set.insertAll rest
    | .error e => (set, some e)

/-- Adds a generated file.  Its products are computed before its name is looked up. -/
def addFile (set : FileSet) (file : File) : Except Error FileSet :=
  if file.fits then set.insert file.name file.text else .error .overflow

/-- Adds generated files, whose names have to be new and whose products have to fit. -/
def addFiles (set : FileSet) (files : List File) : Except Error FileSet :=
  files.foldlM addFile set

end FileSet

end Cartridge.Source
