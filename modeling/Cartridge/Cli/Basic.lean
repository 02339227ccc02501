import Cartridge.Build.Basic
import Cartridge.Cli.Arguments
import Cartridge.Project.Reader

/-!
# The program

Performs what a command line asks for, and reports how that went.
-/

namespace Cartridge.Cli

open Cartridge.Build
open Cartridge.Files (FilePath)

/-- What the program prints and ends with. -/
structure Report where
  code : Nat
  output : String := ""
  errors : String := ""

/-- The version of the program. -/
def versionText : String := "gbsc 0.1.0"

/-- Reads the project in a file. -/
def loadProject (path : FilePath) : Build.Action Project :=
  ExceptT.mk fun world =>
    (match world.tree.readText path with
      | .error fault => .error (.compile (.ofFault "read project" path fault))
      | .ok text =>
        match Project.ofText? text with
        | some project => .ok project
        | none => .error (.compile (.unreadableProject ["the text is no project"])), world)

/-- The folder for temporary files, by the command line or by variables. -/
def temporaryFolder (flags : Flags) (vars : Toolchain.Variables) : FilePath :=
  ⟨((flags.temporary.or (vars "GBSC_TMP_DIR")).or (vars "TMPDIR")).getD "/tmp"⟩

/-- The folder of the object cache, unless there shall be none. -/
def cacheFolder (flags : Flags) (vars : Toolchain.Variables) (usual : Option FilePath) :
    Option FilePath :=
  if flags.noCache then none
  else ((flags.cacheFolder.or (vars "GBSC_CACHE_DIR")).map FilePath.mk).or usual

/-- The options of a build that a command line asks for. -/
def optionsFor (workshop : Workshop) (flags : Flags) (path : FilePath) (project : Project)
    (product : Product) (make : Bool) : Options :=
  let temporary := temporaryFolder flags workshop.vars
  let usual := Options.standard product (path.parent?.getD ⟨"."⟩) temporary
  { usual with
    cacheFolder := cacheFolder flags workshop.vars usual.cacheFolder
    image := Rom.fileName project.settings.romFilename project.metadata.name project.isColorOnly
      product
    debug := project.settings.debuggerEnabled
    make := make }

/-- Builds the project in a file. -/
def buildFile (workshop : Workshop) (flags : Flags) (path : FilePath) (product : Product)
    (make : Bool) : Stage (Output × Options) := do
  let project ← Stage.within ("failed to load project " ++ path.text) (loadProject path)
  let options := optionsFor workshop flags path project product make
  let output ← workshop.build project options
  return (output, options)

/-- Copies the generated data to the destination, in place of what was there. -/
def copyData (root destination : FilePath) (folder : String) : Build.Action Unit := do
  Build.Action.removeFolder (destination.join folder)
  let _ ← Build.Action.copyFolder (root.join folder) (destination.join folder)

/-- Performs a task on a project. -/
def perform (workshop : Workshop) (task : Task) (project destination : FilePath) (flags : Flags) :
    Stage Unit := do
  match task with
  | .export =>
    let (_, options) ← buildFile workshop flags project .rom false
    if flags.onlyData then
      Stage.lift (copyData options.outputRoot destination "src/data")
      Stage.lift (copyData options.outputRoot destination "include/data")
    else
      let _ ← Stage.lift (Build.Action.copyFolder options.outputRoot destination)
  | .image product =>
    let (output, _) ← buildFile workshop flags project product true
    match output.image with
    | some image =>
      let _ ← Stage.lift (Build.Action.copyFile image destination)
    | none => throw { error := .io "build produced no ROM" [] }
  | .bundle =>
    let (_, options) ← buildFile workshop flags project .web true
    let _ ← Stage.lift (Build.Action.copyFolder (options.outputRoot.join "build/web") destination)

/-- The code that the program ends with after a failure; a panic has its own. -/
def failureCode (failure : Failure) : Nat :=
  if failure.error = .compile .overflow then 101 else 1

/-- Runs the program on its arguments. -/
def run (workshop : Workshop) (args : List String) (world : World) : Report × World :=
  match Request.ofArguments args with
  | .error e => ({ code := 2, errors := "error: " ++ e.message ++ "\n" }, world)
  | .ok .version => ({ code := 0, output := versionText ++ "\n" }, world)
  | .ok (.perform task project destination flags) =>
    match (perform workshop task ⟨project⟩ ⟨destination⟩ flags).run world with
    | (.ok (), world) => ({ code := 0 }, world)
    | (.error failure, world) =>
      ({ code := failureCode failure, errors := "Error: " ++ failure.full ++ "\n" }, world)

end Cartridge.Cli
