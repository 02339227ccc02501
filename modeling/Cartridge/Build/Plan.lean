import Cartridge.Build.Features
import Cartridge.Build.Toolchain

/-!
# Compile plan

Every source below the source folder is compiled into an object of its name, except those of the
music driver that is not in use.  Paths are relative to the build folder, where the tools run.
-/

namespace Cartridge.Build

open Cartridge.Files (FileTree FilePath)

/-- A call of a tool. -/
structure Tool where
  label : String
  program : FilePath
  args : List String := []

/-- The compilation of one source. -/
structure CompileJob where
  source : FilePath
  object : FilePath
  tool : Tool

/-- The object of a job is there. -/
def CompileJob.isBuilt (job : CompileJob) (tree : FileTree) (root : FilePath) : Bool :=
  tree.isFile (root.join job.object.text)

/-- The object of a source; sources of one name in several folders share it. -/
def objectPath (source : FilePath) : FilePath :=
  (⟨"obj"⟩ : FilePath).join (source.fileStem?.getD "" ++ ".o")

/-- A file that is compiled. -/
def isSource (path : FilePath) : Bool :=
  path.extension? == some "c" || path.extension? == some "s"

/-- The sources of a build, without those of the music driver that is not used. -/
def sourceFiles (tree : FileTree) (root : FilePath) (features : Features) : List FilePath :=
  let below := (tree.listing (root.join "src")).map (⟨"src"⟩ : FilePath).joinAll
  below.filter fun path =>
    isSource path && !Text.occursIn features.musicDriver.other.define path.text

/-! ## Options of the compilers -/

/-- Options that are given in some cases. -/
def optional (condition : Bool) (options : List String) : List String :=
  if condition then options else []

/-- The option that compiles for the Analogue Pocket. -/
def pocketOption : String := "-msm83:ap"

/-- Options for Game Boy sources; the assembler looks for its headers in a folder of GBDK. -/
def gameBoyOptions (features : Features) (assembly : FilePath) : List String :=
  ["-Iinclude", "-Wa-Iinclude", "-Wa-I" ++ assembly.text, "-Wl-a", "-Wf-MMD", "-c",
    "-Wf--max-allocs-per-node" ++ toString features.preset.toNat] ++
  optional features.color ["-DCGB"] ++ optional features.sgb ["-DSGB"] ++
  ["-D" ++ features.musicDriver.define] ++
  optional features.batteryless ["-DBATTERYLESS"] ++
  ["-DRUMBLE_ENABLE=" ++ features.rumbleBit ++ "u"] ++
  optional features.debug ["-Wf--fverbose-asm", "-Wf--debug", "-Wl-m", "-Wl-w", "-Wl-y",
    "-DVM_DEBUG_OUTPUT", "-Wf--nolospre", "-Wf--nogcse"] ++
  optional (features.platform == .pocket) [pocketOption]

/-- Options that select the processor of the Advance. -/
def advanceTarget : List String :=
  ["-mthumb", "-mthumb-interwork", "-mcpu=arm7tdmi"]

/-- The options that compile a source for the Advance. -/
def advanceOptions (features : Features) : List String :=
  advanceTarget ++ ["-Wall", "-Wextra", "-O2", "-fomit-frame-pointer", "-Iinclude", "-c"] ++
    optional features.debug ["-g", "-DDEBUG"]

/-- The options that compile a source with a toolchain. -/
def compileOptions (features : Features) : Toolchain → List String
  | .gbdk root => gameBoyOptions features (root.joinAll ["lib", "small", "asxxxx"])
  | .devkit _ _ => advanceOptions features

/-- The job that compiles a source. -/
def compileJob (features : Features) (toolchain : Toolchain) (source : FilePath) : CompileJob where
  source := source
  object := objectPath source
  tool :=
    { label := "Compiling: " ++ source.text
      program := toolchain.compiler
      args := compileOptions features toolchain ++
        ["-o", (objectPath source).text, source.text] }

/-- One job for every source, whether or not its object exists. -/
def compilePlan (tree : FileTree) (root : FilePath) (features : Features) (toolchain : Toolchain) :
    List CompileJob :=
  (sourceFiles tree root features).map (compileJob features toolchain)

/-- The list of objects for the linker, one a line. -/
def linkManifest (jobs : List CompileJob) : String :=
  Text.joinWith "\n" (jobs.map (·.object.text))

end Cartridge.Build
