import Cartridge.Text.Pieces

/-!
# Paths

A path is kept as it was written.  Its components leave out empty pieces and inner dots, so two
spellings of one path have the same components; all questions about parts go by components.
-/

namespace Cartridge.Files

/-- A path as written. -/
structure FilePath where
  text : String
  deriving DecidableEq

/-- A part of a path. -/
inductive Component
  | root
  | here
  | up
  | name (text : String)
  deriving DecidableEq

namespace FilePath

/-- The path starts at the root. -/
def isAbsolute (p : FilePath) : Bool :=
  p.text.toList.head? == some '/'

/-- The component of a piece between slashes, if it counts. -/
def component? (piece : List Char) : Option Component :=
  match piece with
  | [] => none
  | ['.'] => none
  | ['.', '.'] => some .up
  | cs => some (.name (String.ofList cs))

/-- The components of a path.  A dot counts only in front. -/
def components (p : FilePath) : List Component :=
  match Text.pieces (· == '/') p.text.toList with
  | [] => []
  | head :: rest =>
    let first :=
      if p.isAbsolute then [.root]
      else if head = ['.'] then [.here] else (component? head).toList
    first ++ rest.filterMap component?

/-- A path below another; an absolute path stands for itself. -/
def join (p : FilePath) (below : String) : FilePath :=
  if (FilePath.mk below).isAbsolute then ⟨below⟩
  else if p.text == "" || p.text.toList.getLast? == some '/' then ⟨p.text ++ below⟩
  else ⟨p.text ++ "/" ++ below⟩

/-- The path behind further names. -/
def joinAll (p : FilePath) (below : List String) : FilePath :=
  below.foldl join p

/-- Drops pieces that do not count from the end; the pieces are in reverse. -/
def dropIdle (pieces : List (List Char)) : List (List Char) :=
  pieces.dropWhile fun piece => (component? piece).isNone

/-- The text of a head and of pieces that are given backwards. -/
def textOfPieces (head : List Char) (reversed : List (List Char)) : String :=
  match reversed with
  | [] => String.ofList head
  | _ => Text.joinWith "/" ((head :: reversed.reverse).map String.ofList)

/-- The path without its last component, unless it is a root or empty. -/
def parent? (p : FilePath) : Option FilePath :=
  match Text.pieces (· == '/') p.text.toList with
  | [] => none
  | head :: rest =>
    match dropIdle rest.reverse with
    | _ :: before =>
      match dropIdle before with
      | [] => if p.isAbsolute then some ⟨"/"⟩ else some ⟨String.ofList head⟩
      | kept => some ⟨textOfPieces head kept⟩
    | [] => if p.isAbsolute || head.isEmpty then none else some ⟨""⟩

/-- The last component, if it is a name. -/
def fileName? (p : FilePath) : Option String :=
  match p.components.getLast? with
  | some (.name text) => some text
  | _ => none

/-- A file name before and after its last dot; a dot in front does not count. -/
def splitName (name : String) : String × Option String :=
  match Text.pieces (· == '.') name.toList with
  | [] => (name, none)
  | [_] => (name, none)
  | [[], _] => (name, none)
  | all =>
    (Text.joinWith "." (all.dropLast.map String.ofList),
      all.getLast?.map String.ofList)

/-- The file name without its extension. -/
def fileStem? (p : FilePath) : Option String :=
  p.fileName?.map fun name => (splitName name).1

/-- The ending of the last name. -/
def extension? (p : FilePath) : Option String :=
  p.fileName?.bind fun name => (splitName name).2

/-- The path lies at another one or below it. -/
def startsWith (p q : FilePath) : Bool :=
  q.components.isPrefixOf p.components

end FilePath

end Cartridge.Files
