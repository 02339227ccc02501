import Cartridge.Compile.Outcome
import Cartridge.Files.Tree
import Cartridge.Json.Decoder

/-!
# The engine template

The compiler comes with a template: the engine's sources, default assets, and the player for
browsers.  A template is either unreadable, and then every use of it fails, or a list of files.
-/

namespace Cartridge.Compile

open Cartridge.Files (FileTree FilePath)
open Cartridge.Json

/-- The engine template. -/
inductive Template
  | unreadable (cause : String)
  | files (entries : List (String × ByteArray))

namespace Template

/-- The template that is built in.  Its archive is damaged. -/
def embedded : Template :=
  .unreadable "invalid gzip header"

/-- The files of a template. -/
def contents : Template → Except Error (List (String × ByteArray))
  | .unreadable cause => .error (.io "failed to read embedded engine template" [cause])
  | .files entries => .ok entries

/-- A file of a template by its path. -/
def file? (template : Template) (name : String) : Except Error (Option ByteArray) := do
  return (← template.contents).lookup name

/-- Writes one file, creating the folders around it. -/
def placeFile (tree : FileTree) (path : FilePath) (data : ByteArray) : Except Error FileTree := do
  let tree ← match path.parent? with
    | none => pure tree
    | some parent => (tree.createFolders parent).result.mapError (.ofFault "create" parent)
  (tree.write path data).mapError (.ofFault "write" path)

/-- Makes sure that a project has a file, with the default of the template when it is missing. -/
def ensureAsset (template : Template) (tree : FileTree) (root : FilePath) (relative : String) :
    Outcome (FilePath × FileTree) :=
  let path := root.join relative
  if tree.pathExists path then .ok (path, tree)
  else
    match template.file? relative with
    | .error e => .fail e
    | .ok none => .ok (path, tree)
    | .ok (some data) =>
      match placeFile tree path data with
      | .error e => .fail e
      | .ok tree =>
        .withWarnings
          [relative ++ " was missing, copying default file to project assets"] (path, tree)

/-- The files of the template below a folder, with their names relative to it. -/
def below (template : Template) (folder : String) : Except Error (List (String × ByteArray)) := do
  return (← template.contents).filterMap fun entry =>
    ((folder ++ "/").toList.isPrefixOf? entry.1.toList).map fun rest =>
      (String.ofList rest, entry.2)

/-- Writes the files of the template below a folder; the answer holds their number. -/
def extract (template : Template) (folder : String) (tree : FileTree) (target : FilePath) :
    Except Error (Nat × FileTree) := do
  let files ← template.below folder
  let tree ← files.foldlM (fun tree entry => placeFile tree (target.join entry.1) entry.2) tree
  return (files.length, tree)

/-- A type of scene that the engine knows. -/
structure SceneType where
  key : String
  label : String

/-- Reads a type of scenes. -/
def readSceneType : Decoder SceneType := fun room node => do
  let given ← Decoder.fields ["key", "label"] room node
  return ⟨← Decoder.required given "key" Decoder.string,
    ← Decoder.required given "label" Decoder.string⟩

/-- Reads the list of scene types from the engine's description. -/
def readManifest : Decoder (List SceneType) := fun room node => do
  let given ← Decoder.fields ["sceneTypes"] room node
  Decoder.required given "sceneTypes" (Decoder.list readSceneType)

/-- The types of scenes that an engine knows; one without a manifest knows none. -/
def sceneTypes (template : Template) : Except Error (List SceneType) := do
  match ← template.file? "engine/engine.json" with
  | none => return []
  | some data =>
    match (Node.ofData? data).bind (readManifest nestingLimit) with
    | some types => return types
    | none => .error (.unreadableProject [])

end Template

end Cartridge.Compile
