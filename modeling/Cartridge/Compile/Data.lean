import Cartridge.Files.Tree
import Cartridge.Json.Printer
import Cartridge.Source.File

/-!
# Compiled data

The result of a compilation: the generated files, and maps from the symbols of scenes and
variables back to the project, for a debugger.
-/

namespace Cartridge.Compile

open Cartridge.Files (FileTree FilePath)
open Cartridge.Json
open Cartridge.Source (FileSet)

/-- The scene behind a symbol. -/
structure SceneIdentity where
  id : String
  name : String
  symbol : String

/-- The variable behind a symbol. -/
structure VariableIdentity where
  symbol : String
  id : String
  name : String
  isLocal : Bool := false
  entityType : String := "scene"
  entityId : String := ""
  sceneId : String := ""

/-- A scene in the map of scenes. -/
def SceneIdentity.json (scene : SceneIdentity) : Value :=
  .object [("id", .string scene.id), ("name", .string scene.name),
    ("symbol", .string scene.symbol)]

/-- A variable in the map of variables. -/
def VariableIdentity.json (entry : VariableIdentity) : Value :=
  .object [("symbol", .string entry.symbol), ("id", .string entry.id),
    ("name", .string entry.name), ("isLocal", .bool entry.isLocal),
    ("entityType", .string entry.entityType), ("entityId", .string entry.entityId),
    ("sceneId", .string entry.sceneId)]

/-- The result of a compilation. -/
structure Data where
  files : FileSet := {}
  scenes : List SceneIdentity := []
  vars : List VariableIdentity := []
  /-- The scene types that the engine has to include. -/
  usedTypes : List String := []

namespace Data

/-- The map of scenes by symbol; of two scenes with one symbol the last counts. -/
def sceneMap (data : Data) : Value :=
  .object (Fields.ofList (data.scenes.map fun s => (s.symbol, s.json)))

/-- The map of variables by symbol; of two variables with one symbol the last counts. -/
def variableMap (data : Data) : Value :=
  .object (Fields.ofList (data.vars.map fun v => (v.symbol, v.json)))

/-- The folder of a generated file: headers and includes have one of their own. -/
def folderOf (name : String) : String :=
  if Text.endsWith ".h" name || Text.endsWith ".i" name then "include/data" else "src/data"

/-- Where a generated file lies below a root. -/
def filePath (root : FilePath) (name : String) : FilePath :=
  (root.join (folderOf name)).join name

/-- Writes a generated file and the folders around it. -/
def writeFile (root : FilePath) (tree : FileTree) (file : String × String) :
    Except Error FileTree := do
  let path := filePath root file.1
  let tree ← match path.parent? with
    | none => pure tree
    | some parent =>
      (tree.createFolders parent).result.mapError (.ofFault "create directory" parent)
  (tree.writeText path file.2).mapError (.ofFault "write" path)

/-- Writes a map for the debugger. -/
def writeMap (path : FilePath) (map : Value) (tree : FileTree) : Except Error FileTree :=
  (tree.writeText path map.pretty).mapError (.ofFault "write" path)

/-- Writes all files below a folder, then the maps; answers the number of files. -/
def write (data : Data) (root : FilePath) (tree : FileTree) : Except Error (Nat × FileTree) := do
  let tree ← data.files.files.foldlM (writeFile root) tree
  let build := root.join "build"
  let tree ← (tree.createFolders build).result.mapError (.ofFault "create directory" build)
  let tree ← writeMap (build.join "variable_map.json") data.variableMap tree
  let tree ← writeMap (build.join "scene_map.json") data.sceneMap tree
  return (data.files.files.length, tree)

end Data

end Cartridge.Compile
