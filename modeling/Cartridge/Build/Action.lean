import Cartridge.Build.Process
import Cartridge.Files.Tree

/-!
# Actions of a build

An action works on the files of a build and on its context.  It answers a result or an error;
what it changed before an error stays changed.
-/

namespace Cartridge.Build

open Cartridge.Files (FileTree FilePath Fault)

/-- What a build works on. -/
structure World where
  tree : FileTree
  context : Context := {}

/-- A step of a build. -/
abbrev Action (α : Type) := ExceptT Error (StateM World) α

namespace Action

/-- Stops a build that was cancelled. -/
def checkpoint : Action Unit :=
  ExceptT.mk fun world => (world.context.check, world)

/-- The files as they are. -/
def tree : Action FileTree :=
  ExceptT.mk fun world => (.ok world.tree, world)

/-- Reads from the files without changing them; `describe` makes an error of a fault. -/
def look (describe : Fault → Error) (find : FileTree → Except Fault α) : Action α :=
  ExceptT.mk fun world => ((find world.tree).mapError describe, world)

/-- Changes the files and answers a result. -/
def change (describe : Fault → Error) (step : FileTree → Except Fault (α × FileTree)) : Action α :=
  ExceptT.mk fun world =>
    match step world.tree with
    | .ok (a, tree) => (.ok a, { world with tree := tree })
    | .error fault => (.error (describe fault), world)

/-- Changes the files; a fault leaves them as they were. -/
def update (describe : Fault → Error) (step : FileTree → Except Fault FileTree) : Action Unit :=
  change describe fun tree => (step tree).map fun tree => ((), tree)

/-- Changes many files; what was changed before a fault stays changed. -/
def attempt (describe : Fault → Error) (step : FileTree → Files.Change) : Action Unit :=
  ExceptT.mk fun world =>
    let change := step world.tree
    (match change.fault with
      | none => .ok ()
      | some fault => .error (describe fault), { world with tree := change.tree })

/-- The result of an action and what it made of the world. -/
def run (action : Action α) (world : World) : Except Error α × World :=
  (ExceptT.run action) world

/-! ## Files and folders -/

/-- Creates the folders around a path. -/
def createParent (describe : FilePath → Fault → Error) (path : FilePath) : Action Unit :=
  match path.parent? with
  | none => pure ()
  | some parent => attempt (describe parent) (·.createFolders parent)

/-- Writes a file. -/
def write (path : FilePath) (data : ByteArray) : Action Unit :=
  update (.ofFault "write" path) (·.write path data)

/-- Reads the text of a file. -/
def readText (path : FilePath) : Action String :=
  look (.ofFault "read" path) (·.readText path)

/-- Copies a file and creates the folder around the target; answers the number of bytes. -/
def copyFile (source target : FilePath) : Action Nat := do
  createParent (.ofFault "create") target
  change (.ofFault "copy" source) (·.copy source target)

/-- Copies files, given by their places below both folders. -/
def copyEach (source target : FilePath) : List Files.Location → Action Unit
  | [] => pure ()
  | place :: rest => do
    let _ ← copyFile (source.joinAll place) (target.joinAll place)
    copyEach source target rest

/-- Copies the files of a folder into another; answers their number. -/
def copyFolder (source target : FilePath) : Action Nat := do
  let places := (← tree).listing source
  copyEach source target places
  return places.length

/-- Removes a folder with all that is in it; a missing one is fine. -/
def removeFolder (folder : FilePath) : Action Unit := do
  if (← tree).pathExists folder then
    attempt (.ofFault "remove" folder) (·.removeFolder folder)

end Action

end Cartridge.Build
