import Cartridge.Files.Fault
import Cartridge.Files.Path
import Cartridge.Text.Utf8

/-!
# A tree of files

The files a build works on, as a value.  Each location, a list of names from the root, holds a
folder or a file.  Every operation takes paths as programs write them, resolves them step by step
through folders that exist, and answers the new tree or the fault that stopped it.  Operations on
many entries may stop half way; they answer the tree that they left as well.
-/

namespace Cartridge.Files

/-- The names from the root to an entry. -/
abbrev Location := List String

/-- What a file holds. -/
structure Content where
  bytes ::
  data : ByteArray

/-- What stands at a location. -/
inductive Entry
  | folder
  | file (content : Content) (executable : Bool)

/-- Folders and files by location, and the folder that relative paths start from. -/
structure FileTree where
  entries : List (Location × Entry) := []
  current : Location := []

/-- A change of many entries: the tree it left, and the fault that stopped it half way. -/
structure Change where
  tree : FileTree
  fault : Option Fault := none

/-- The result of a change where one that stopped does not count. -/
def Change.result (change : Change) : Except Fault FileTree :=
  match change.fault with
  | none => .ok change.tree
  | some fault => .error fault

/-- Order of locations: name by name. -/
def locationLe : Location → Location → Bool
  | [], _ => true
  | _ :: _, [] => false
  | a :: as, b :: bs => if a = b then locationLe as bs else a ≤ b

namespace FileTree

/-- What stands at a location; the root is a folder. -/
def at? (tree : FileTree) (place : Location) : Option Entry :=
  if place = [] then some .folder
  else (tree.entries.find? fun entry => entry.1 == place).map (·.2)

/-- Puts an entry at a location, in place of what was there. -/
def put (tree : FileTree) (place : Location) (entry : Entry) : FileTree :=
  { tree with
    entries := (tree.entries.filter fun other => other.1 != place) ++ [(place, entry)] }

/-- Removes a location with everything below it. -/
def erase (tree : FileTree) (place : Location) : FileTree :=
  { tree with entries := tree.entries.filter fun entry => !place.isPrefixOf entry.1 }

/-- The longest name a file may have, in bytes. -/
def maxNameSize : Nat := 255

/-- The longest path that is looked up, in bytes. -/
def maxPathSize : Nat := 4095

/-- One step of a path from a location, which has to be a folder. -/
def step (tree : FileTree) (place : Location) (piece : List Char) : Except Fault Location :=
  match tree.at? place with
  | none => .error .notFound
  | some (.file _ _) => .error .notFolder
  | some .folder =>
    match FilePath.component? piece with
    | some (.name name) =>
      if maxNameSize < name.utf8ByteSize then .error .nameTooLong else .ok (place ++ [name])
    | some .up => .ok place.dropLast
    | _ => .ok place

/-- The location of a path.  All folders on the way exist; the location itself may be empty. -/
def locate (tree : FileTree) (path : FilePath) : Except Fault Location :=
  if path.text == "" then .error .notFound
  else if path.text.toList.contains (Char.ofNat 0) then .error .zeroInName
  else if maxPathSize < path.text.utf8ByteSize then .error .nameTooLong
  else
    (Text.pieces (· == '/') path.text.toList).foldlM tree.step
      (if path.isAbsolute then [] else tree.current)

/-- What a path leads to. -/
def find (tree : FileTree) (path : FilePath) : Except Fault Entry := do
  match tree.at? (← tree.locate path) with
  | some entry => .ok entry
  | none => .error .notFound

/-- A path leads to something. -/
def pathExists (tree : FileTree) (path : FilePath) : Bool :=
  match tree.find path with
  | .ok _ => true
  | .error _ => false

/-- A path leads to a folder. -/
def isFolder (tree : FileTree) (path : FilePath) : Bool :=
  match tree.find path with
  | .ok .folder => true
  | _ => false

/-- A path leads to a file. -/
def isFile (tree : FileTree) (path : FilePath) : Bool :=
  match tree.find path with
  | .ok (.file _ _) => true
  | _ => false

/-! ## Reading -/

/-- The bytes of a file. -/
def read (tree : FileTree) (path : FilePath) : Except Fault ByteArray := do
  match ← tree.find path with
  | .file content _ => .ok content.data
  | .folder => .error .isFolder

/-- The text of a file. -/
def readText (tree : FileTree) (path : FilePath) : Except Fault String := do
  match ← tree.find path with
  | .folder => .error .isFolder
  | .file (.bytes data) _ =>
    match Text.ofUtf8? data with
    | some text => .ok text
    | none => .error .notText

/-- The files below a location, sorted and seen from there. -/
def filesBelow (tree : FileTree) (place : Location) : List Location :=
  let below := tree.entries.filterMap fun entry =>
    match entry.2 with
    | .folder => none
    | .file _ _ => place.isPrefixOf? entry.1
  (below.filter (!·.isEmpty)).mergeSort locationLe

/-- The locations of all files below a folder, relative to it and in order; a missing folder has
none. -/
def listing (tree : FileTree) (folder : FilePath) : List Location :=
  match tree.isFolder folder, tree.locate folder with
  | true, .ok place => tree.filesBelow place
  | _, _ => []

/-- The paths of all files below a folder, in order. -/
def walk (tree : FileTree) (folder : FilePath) : List FilePath :=
  (tree.listing folder).map folder.joinAll

/-! ## Writing -/

/-- The path without slashes at its end. -/
def withoutFinalSlashes (path : FilePath) : FilePath :=
  match path.text.toList.reverse.dropWhile (· == '/') with
  | [] => path
  | kept => ⟨String.ofList kept.reverse⟩

/-- The location of a file that is there or may be created. -/
def locateFile (tree : FileTree) (path : FilePath) : Except Fault Location := do
  let place ← tree.locate (withoutFinalSlashes path)
  if (withoutFinalSlashes path).text != path.text then .error .isFolder
  else
    match tree.at? place with
    | some .folder => .error .isFolder
    | _ => .ok place

/-- Writes a file, replacing what it held. -/
def writeContent (tree : FileTree) (path : FilePath) (content : Content) :
    Except Fault FileTree := do
  let place ← tree.locateFile path
  match tree.at? place with
  | some (.file _ executable) => .ok (tree.put place (.file content executable))
  | _ => .ok (tree.put place (.file content false))

/-- Writes bytes to a file, replacing what it held. -/
def write (tree : FileTree) (path : FilePath) (data : ByteArray) : Except Fault FileTree :=
  tree.writeContent path (.bytes data)

/-- Writes a text to a file, replacing what it held. -/
def writeText (tree : FileTree) (path : FilePath) (text : String) : Except Fault FileTree :=
  tree.write path text.toUTF8

/-- Adds bytes at the end of a file, which is created when it is missing. -/
def append (tree : FileTree) (path : FilePath) (data : ByteArray) : Except Fault FileTree := do
  let place ← tree.locateFile path
  match tree.at? place with
  | some (.file content executable) =>
    .ok (tree.put place (.file (.bytes (content.data ++ data)) executable))
  | _ => .ok (tree.put place (.file (.bytes data) false))

/-- Creates a folder inside one that exists. -/
def createFolder (tree : FileTree) (path : FilePath) : Except Fault FileTree := do
  let place ← tree.locate (withoutFinalSlashes path)
  match tree.at? place with
  | some _ => .error .alreadyExists
  | none => .ok (tree.put place .folder)

/-- Creates a folder that is not there yet. -/
def ensureFolder (tree : FileTree) (path : FilePath) : Change :=
  match tree.createFolder path with
  | .ok tree => { tree := tree }
  | .error fault => { tree := tree, fault := if tree.isFolder path then none else some fault }

/-- Creates a folder and the missing ones around it, trying at most `levels` of them. -/
def createFoldersFrom : (levels : Nat) → FileTree → FilePath → Change
  | 0, tree, _ => { tree := tree, fault := some .notFound }
  | levels + 1, tree, path =>
    if path.text == "" then { tree := tree }
    else
      match (tree.ensureFolder path).fault, path.parent? with
      | some .notFound, some parent =>
        let around := createFoldersFrom levels tree parent
        if around.fault.isSome then around else around.tree.ensureFolder path
      | _, _ => tree.ensureFolder path

/-- Creates a folder and the missing ones around it.  Each level shortens the path. -/
def createFolders (tree : FileTree) (path : FilePath) : Change :=
  createFoldersFrom (path.text.length + 2) tree path

/-- Copies a file with its permission to be run; the answer holds the number of bytes.  The
target is emptied before the source is read. -/
def copy (tree : FileTree) (source target : FilePath) : Except Fault (Nat × FileTree) := do
  match ← tree.find source with
  | .folder => .error .notRegular
  | .file _ executable =>
    let place ← tree.locateFile target
    let emptied := tree.put place (.file (.bytes .empty) executable)
    match emptied.find source with
    | .ok (.file content _) =>
      .ok (content.data.size, emptied.put place (.file content executable))
    | _ => .ok (0, emptied)

/-- Moves a file to another name, replacing a file that stands there. -/
def rename (tree : FileTree) (source target : FilePath) : Except Fault FileTree := do
  let here ← tree.locate source
  let there ← tree.locate target
  match tree.at? here, tree.at? there with
  | none, _ => .error .notFound
  | some (.file _ _), some .folder => .error .isFolder
  | some .folder, some (.file _ _) => .error .notFolder
  | some .folder, some .folder => .error .notEmpty
  | some entry, _ =>
    let below := tree.entries.filterMap fun other =>
      match here.isPrefixOf? other.1 with
      | some (name :: rest) => some (there ++ name :: rest, other.2)
      | _ => none
    .ok { (tree.erase here).put there entry with
      entries := ((tree.erase here).put there entry).entries ++ below }

/-- Removes a file. -/
def removeFile (tree : FileTree) (path : FilePath) : Except Fault FileTree := do
  let place ← tree.locate path
  match tree.at? place with
  | none => .error .notFound
  | some .folder => .error .isFolder
  | some (.file _ _) => .ok (tree.erase place)

/-- Removes everything below a location. -/
def clear (tree : FileTree) (place : Location) : FileTree :=
  { tree with
    entries := tree.entries.filter fun entry => entry.1 == place || !place.isPrefixOf entry.1 }

/-- The last piece of a path as it is written. -/
def lastPiece (path : FilePath) : List Char :=
  ((Text.pieces (· == '/') (withoutFinalSlashes path).text.toList).getLast?).getD []

/-- Removes a folder that is empty.  A path that ends in dots names no entry to remove. -/
def removeEmpty (tree : FileTree) (path : FilePath) : Except Fault FileTree := do
  let place ← tree.locate path
  match tree.at? place with
  | none => .error .notFound
  | some (.file _ _) => .error .notFolder
  | some .folder =>
    if lastPiece path == ['.'] then .error .invalid
    else if lastPiece path == ['.', '.'] || tree.entries.any fun entry =>
        entry.1 != place && place.isPrefixOf entry.1 then .error .notEmpty
    else .ok (tree.erase place)

/-- Removes a folder with everything in it: first what it holds, then the folder itself, which may
be out of reach by then. -/
def removeFolder (tree : FileTree) (path : FilePath) : Change :=
  match tree.isFolder path, tree.locate path with
  | true, .ok place =>
    let emptied := tree.clear place
    match emptied.removeEmpty path with
    | .ok removed => { tree := removed }
    | .error .notFound => { tree := emptied }
    | .error fault => { tree := emptied, fault := some fault }
  | _, .error fault => { tree := tree, fault := some fault }
  | false, .ok place =>
    { tree := tree, fault := some (if (tree.at? place).isSome then .notFolder else .notFound) }

end FileTree

end Cartridge.Files
