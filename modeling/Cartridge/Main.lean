import Cartridge.Cli.Basic
import Cartridge.Shell.Machine
import Cartridge.Tile.Stored

/-!
# Program entry

Reads the folders that a command line names into a tree of files, runs the program on it, and
writes back what has changed.
-/

namespace Cartridge.Cli

open Cartridge.Build (Workshop Inspection)
open Cartridge.Files (FileTree FilePath Location)

/-- The location that an absolute path names. -/
def locationOf (path : String) : Location :=
  (Text.splitAt '/' path).filter (· ≠ "")

/-- A tree with the folders down to a location. -/
def withParents (tree : FileTree) (place : Location) : FileTree :=
  (List.range (place.length + 1)).foldl (fun tree n =>
    if (tree.at? (place.take n)).isSome then tree else tree.put (place.take n) .folder) tree

/-- Reads a file, or a folder with all that lies below it, into a tree. -/
def readFolder : (depth : Nat) → String → FileTree → IO FileTree
  | 0, _, tree => return tree
  | depth + 1, folder, tree => do
    let path := (← IO.currentDir) / folder
    unless ← path.isDir do
      if ← path.pathExists then
        let data ← IO.FS.readBinFile path
        return (withParents tree (locationOf path.toString).dropLast).put
          (locationOf path.toString) (.file (.bytes data) false)
      return tree
    let mut tree := withParents tree (locationOf path.toString)
    for entry in ← path.readDir do
      tree ← readFolder depth entry.path.toString tree
    return tree

/-- The depth to which folders are read. -/
def readDepth : Nat := 64

/-- What can be seen of the files of a tree where they lie. -/
def inspectFiles (tree : FileTree) : IO (List (Location × Inspection)) :=
  tree.entries.mapM fun (place, _) => do
    let seen ← ((← IO.currentDir) / ("/" ++ "/".intercalate place)).metadata
    let time := seen.modified.sec * 1000000000 + Int.ofNat seen.modified.nsec.toNat
    return (place, ⟨seen.byteSize, UInt64.ofNat time.toNat⟩)

/-- Writes the files of a tree that differ from those of another. -/
def writeChanges (before after : FileTree) : IO Unit := do
  for (place, entry) in after.entries do
    match entry with
    | .file (.bytes data) _ =>
      let same := match before.at? place with
        | some (.file (.bytes old) _) => old == data
        | _ => false
      unless same do
        IO.FS.createDirAll (absolute place.dropLast)
        IO.FS.writeBinFile (absolute place) data
    | _ => pure ()
  for (place, entry) in before.entries do
    match entry, after.at? place with
    | .file _ _, none => IO.FS.removeFile (absolute place)
    | _, _ => pure ()
where
  absolute (place : Location) : String := "/" ++ "/".intercalate place

/-- The folders that a command line works on. -/
def foldersOf (vars : String → Option String) : Request → List String
  | .version => []
  | .perform _ project destination flags =>
    let parent := (((⟨project⟩ : FilePath).parent?).map (·.text)).getD "."
    [if parent = "" then "." else parent, destination, (temporaryFolder flags vars).text]

/-- Runs the program on the folders that its command line names, with a decoder for the bytes
of pictures. -/
def runMain (pixels : ByteArray → Option Tile.Picture) (args : List String) : IO UInt32 := do
  let names := ["GBSC_TMP_DIR", "GBSC_CACHE_DIR", "TMPDIR", "PATH", "GBDK_HOME", "DEVKITPRO",
    "DEVKITARM"]
  let values ← names.mapM fun name => return (name, ← IO.getEnv name)
  let vars (name : String) : Option String := (values.lookup name).bind id
  let current := locationOf (← IO.currentDir).toString
  let folders := match Request.ofArguments args with
    | .ok request => foldersOf vars request
    | .error _ => []
  let mut tree : FileTree := withParents { current := current } current
  for folder in folders do
    tree ← readFolder readDepth folder tree
  let seen ← inspectFiles tree
  let inherited := values.filterMap fun entry => entry.2.map fun value => (entry.1, value)
  let workshop : Workshop :=
    { template := .embedded
      encoder := fun root tree => Tile.fileEncoder (Tile.storedPictures pixels) tree root
      machine := Shell.machine inherited
      inspect := fun tree path => (tree.locate path).toOption.bind fun place => seen.lookup place
      vars := vars }
  let (report, world) := run workshop args { tree := tree }
  writeChanges tree world.tree
  (← IO.getStdout).putStr report.output
  (← IO.getStderr).putStr report.errors
  return UInt32.ofNat report.code

end Cartridge.Cli

/-- The program as it stands, without a decoder for the bytes of pictures. -/
def main (args : List String) : IO UInt32 :=
  Cartridge.Cli.runMain (fun _ => none) args
