import Cartridge.Build.Cache
import Cartridge.Build.Link
import Cartridge.Build.Pool
import Cartridge.Build.Validation
import Cartridge.Compile.Basic
import Cartridge.Web.Bundle

/-!
# Building a project

A build compiles the project, writes the engine with the compiled data, compiles the sources that
have no object yet, links them, and makes the product.  The previous build stays when the project
cannot be compiled.
-/

namespace Cartridge.Build

open Cartridge.Compile (Template Reporter)
open Cartridge.Files (FilePath FileTree)

/-- How a project is built. -/
structure Options where
  product : Product
  /-- The folder of the project. -/
  projectRoot : FilePath
  /-- The build folder, which is made anew. -/
  outputRoot : FilePath
  /-- The folder for temporary files. -/
  temporary : FilePath
  /-- The folder of the object cache, if there is one. -/
  cacheFolder : Option FilePath
  image : String := "game.gb"
  debug : Bool := false
  /-- Without this only the engine and the compiled data are written. -/
  make : Bool := true
  /-- The toolchain, instead of one that is looked for. -/
  toolchain : Option Toolchain := none

/-- The usual options: the build and the cache lie in the folder for temporary files. -/
def Options.standard (product : Product) (projectRoot temporary : FilePath) : Options where
  product := product
  projectRoot := projectRoot
  outputRoot := temporary.join "_gbsbuild"
  temporary := temporary
  cacheFolder := some (temporary.join "_gbscache")

/-- What a build is made with. -/
structure Workshop where
  template : Template
  /-- Encodes the assets of a project. -/
  encoder : FilePath → FileTree → Tile.Encoder
  machine : Machine
  /-- Looks at the compilers among the files of a build. -/
  inspect : FileTree → Inspector
  /-- The variables of the process. -/
  vars : Toolchain.Variables

/-- What a build made. -/
structure Output where
  compiled : Compile.Data
  image : Option FilePath
  warnings : List String

/-- A step of a build that says where it fails. -/
abbrev Stage (α : Type) := ExceptT Failure (StateM World) α

/-- An action whose error has no context. -/
def Stage.lift (action : Action α) : Stage α :=
  ExceptT.mk fun world =>
    match action.run world with
    | (.ok a, world) => (.ok a, world)
    | (.error e, world) => (.error { error := e }, world)

/-- An action whose error is met in a context. -/
def Stage.within (context : String) (action : Action α) : Stage α :=
  ExceptT.mk fun world =>
    match action.run world with
    | (.ok a, world) => (.ok a, world)
    | (.error e, world) => (.error { contexts := [context], error := e }, world)

/-- An action whose error does not matter. -/
def Stage.attempt (action : Action Unit) : Stage Unit :=
  ExceptT.mk fun world => (.ok (), (action.run world).2)

namespace Workshop

/-- What the tables of a project are built from. -/
def tablesInput (workshop : Workshop) (project : Project) (options : Options) :
    Tables.Input where
  project := project
  root := options.projectRoot
  platform := options.product.platform
  schema := .builtin
  template := workshop.template
  encoder := workshop.encoder options.projectRoot

/-- Compiles the project; the answer holds its warnings. -/
def compile (workshop : Workshop) (project : Project) (options : Options) :
    Action (Compile.Data × List String) :=
  ExceptT.mk fun world =>
    let reporter : Reporter := { interrupt := some world.context.isCancelled }
    let outcome := Compile.compileProject (workshop.tablesInput project options) reporter
      world.tree
    (match outcome.result with
      | .ok data => .ok (data, outcome.warnings)
      | .error e => .error (.ofCompile e), world)

/-- Writes the compiled data into the build folder. -/
def writeData (data : Compile.Data) (root : FilePath) : Action Unit :=
  ExceptT.mk fun world =>
    match data.write root world.tree with
    | .ok (_, tree) => (.ok (), { world with tree := tree })
    | .error e => (.error (.ofCompile e), world)

/-- The toolchain that the options give, or the one that is installed. -/
def toolchain (workshop : Workshop) (options : Options) : Action Toolchain :=
  ExceptT.mk fun world =>
    match options.toolchain with
    | some toolchain => (.ok toolchain, world)
    | none =>
      (Toolchain.find world.tree options.product.platform
        (options.temporary.join "_gbstools") workshop.vars, world)

/-- Compiles the sources that have no object yet. -/
def compileSources (workshop : Workshop) (root : FilePath) (jobs : List CompileJob)
    (env : Environment) : Action Unit := do
  let tree ← Action.tree
  let pending := jobs.filter fun job => !job.isBuilt tree root
  let objects := root.join "obj"
  Action.attempt (.ofFault "create" objects) (·.createFolders objects)
  let _ ← runJobs (fun job => job.tool.run workshop.machine root env) pending

/-- The keys of the jobs; without a cache none are made. -/
def keys (workshop : Workshop) (cache : Option ObjectCache) (root : FilePath)
    (jobs : List CompileJob) (env : Environment) : Action (List Digest.Key) :=
  ExceptT.mk fun world =>
    (match cache with
      | some _ => cacheKeys world.tree (workshop.inspect world.tree) root jobs env
      | none => .ok [], world)

/-- Makes the product from the linked image. -/
def finish (workshop : Workshop) (project : Project) (options : Options) (image : FilePath) :
    Stage Unit :=
  let root := options.outputRoot
  match options.product with
  | .pocket => do
    let _ ← Stage.lift (Action.copyFile image ((root.join "build/pocket").join options.image))
  | .web =>
    Stage.within "failed to export web build"
      (Web.writeBundle workshop.template project image options.image (root.join "build/web"))
  | _ => pure ()

/-- Builds the image from the written sources. -/
def makeImage (workshop : Workshop) (project : Project) (options : Options) : Stage FilePath := do
  let root := options.outputRoot
  Stage.lift Action.checkpoint
  let toolchain ← Stage.lift (workshop.toolchain options)
  let features := Features.ofSettings project.settings options.product options.debug
  let env := Environment.forBuild features toolchain options.temporary (workshop.vars "PATH")
  let jobs := compilePlan (← Stage.lift Action.tree) root features toolchain
  let cache := options.cacheFolder.map ObjectCache.inFolder
  let keys ← Stage.lift (workshop.keys cache root jobs env)
  match cache with
  | some cache => Stage.attempt (do let _ ← cache.fetch root jobs keys)
  | none => pure ()
  Stage.lift (workshop.compileSources root jobs env)
  let job : LinkJob := ⟨root, features, toolchain, env, jobs, options.image, project.metadata.name⟩
  let image ← Stage.within "failed to link ROM" (job.link workshop.machine)
  Stage.lift Action.checkpoint
  workshop.finish project options image
  match cache with
  | some cache => Stage.attempt (do let _ ← cache.store root jobs keys)
  | none => pure ()
  return image

/-- Builds a project.  Nothing is removed before the project has been compiled. -/
def build (workshop : Workshop) (project : Project) (options : Options) : Stage Output := do
  let root := options.outputRoot
  Stage.lift Action.checkpoint
  let (compiled, warnings) ← Stage.lift (workshop.compile project options)
  Stage.lift (Action.removeFolder root)
  let _ ← Stage.within "failed to eject engine"
    (Web.extractFiles workshop.template "engine" root)
  Stage.within "failed to write generated data" (writeData compiled root)
  let tree ← Stage.lift Action.tree
  let warnings := warnings ++ validationWarnings tree root options.product.platform
  if options.make then
    return ⟨compiled, some (← workshop.makeImage project options), warnings⟩
  else return ⟨compiled, none, warnings⟩

end Workshop

end Cartridge.Build
