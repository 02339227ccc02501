import Cartridge.Build.ToolRun
import Cartridge.Rom.Image
import Cartridge.Rom.Name

/-!
# Linking

The objects of a build become an image.  For the Advance the linked executable is turned into an
image, filled up to the least size, and its header is completed where the tool for it is there.
-/

namespace Cartridge.Build

open Cartridge.Files (FilePath)

/-- The list of objects, in the build folder. -/
def linkFile : String := "obj/linkfile.lk"

/-- The folder of the linked image, below the build folder. -/
def romFolder : String := "build/rom"

/-! ## Options of the linkers -/

/-- The number of the memory controller in the header of an image. -/
def controllerNumber (features : Features) : String :=
  match features.controller with
  | .mbc3 => "0x10"
  | .mbc5 => "0x1E"

/-- The options that link the music driver. -/
def driverOptions (features : Features) : List String :=
  match features.musicDriver with
  | .hugeTracker => ["-Wl-lhUGEDriver.lib"]
  | .gbtPlayer => ["-Wl-lgbt_player.lib", "-Wb-reserve=1:800"]

/-- Options for saving: without a battery, banks are kept free for the saved game. -/
def saveOptions (features : Features) : List String :=
  if features.batteryless then
    ["-Wb-reserve=15:4000", "-Wb-reserve=14:4000", "-Wb-reserve=13:4000", "-Wb-reserve=12:4000",
      "-Wl-g__start_save=12"]
  else ["-Wl-g__start_save=0"]

/-- The options that mark an image as one for colour hardware. -/
def colorOptions (features : Features) : List String :=
  if features.colorOnly then ["-Wm-yC"] else optional features.color ["-Wm-yc"]

/-- The arguments of the linker for a Game Boy image. -/
def gameBoyLinkArgs (features : Features) (image project : String) : List String :=
  ["-Wm-yt" ++ controllerNumber features, "-autobank", "-Wb-ext=.rel", "-Wm-yoA", "-Wm-ya4",
    "-Wl-j", "-Wl-m", "-Wl-w", "-Wm-yS", "-Wl-klib", "-Wl-g.STACK=0xDF00", "-Wi-e",
    "-Wm-yn" ++ Rom.headerTitle project] ++
  colorOptions features ++ optional features.sgb ["-Wm-ys"] ++
  optional (features.platform == .pocket) [pocketOption] ++
  optional features.debug ["-Wf--debug", "-Wl-m", "-Wl-w", "-Wl-y"] ++
  driverOptions features ++ saveOptions features ++
  ["-o", romFolder ++ "/" ++ image, "-Wl-f" ++ linkFile]

/-- The arguments of the linker for an Advance image. -/
def advanceLinkArgs : List String :=
  advanceTarget ++ ["-T", "gba.ld", "-o", romFolder ++ "/game.elf",
    "-Wl,-Map," ++ romFolder ++ "/game.map", "@" ++ linkFile]

/-! ## Images -/

/-- The image in a linked file. -/
def extractImage (path : FilePath) : Action ByteArray := do
  let data ← Action.look (.ofFault "read" path) (·.read path)
  match Rom.imageOfElf data with
  | .ok image => return image
  | .error fault => throw (.io ("failed to parse ELF " ++ path.text) [fault.message])

/-- Fills an image up to a least size; answers the old size when it was too small. -/
def padImage (path : FilePath) (least : Nat) : Action (Option Nat) := do
  let size ← Action.look (.ofFault "read" path) fun tree => do
    match ← tree.find path with
    | .file content _ => .ok content.data.size
    | .folder => .ok 0
  if least ≤ size then return none
  else
    Action.update (.ofFault "open" path) (·.append path (Rom.padding size least))
    return some size

/-! ## Linking -/

/-- What is linked. -/
structure LinkJob where
  root : FilePath
  features : Features
  toolchain : Toolchain
  environment : Environment
  objects : List CompileJob
  image : String
  project : String

namespace LinkJob

/-- Runs a tool in the build folder. -/
def runTool (job : LinkJob) (machine : Machine) (label : String) (program : FilePath)
    (args : List String) : Action Unit :=
  Tool.run ⟨label, program, args⟩ machine job.root job.environment

/-- The path of the linked image. -/
def imagePath (job : LinkJob) : FilePath :=
  (job.root.join romFolder).join job.image

/-- Links an image for the Game Boy; the names of variables are put beside it. -/
def linkGameBoy (job : LinkJob) (machine : Machine) : Action Unit := do
  job.runTool machine "Linking" job.toolchain.compiler
    (gameBoyLinkArgs job.features job.image job.project)
  let globals := job.root.join "include/data/game_globals.i"
  if (← Action.tree).isFile globals then
    let _ ← Action.copyFile globals ((job.root.join romFolder).join "globals.i")

/-- Turns the linked executable into the image, with the tool for it where there is one. -/
def convert (job : LinkJob) (machine : Machine) (arm : FilePath) : Action Unit := do
  let executable := (job.root.join romFolder).join "game.elf"
  let image := job.imagePath
  if (← Action.tree).isFile (Toolchain.objcopy arm) then
    job.runTool machine "objcopy" (Toolchain.objcopy arm)
      ["-O", "binary", executable.text, image.text]
  else
    let data ← extractImage executable
    Action.write image data

/-- Completes the header of the image where the tool for it is there. -/
def fixHeader (job : LinkJob) (machine : Machine) (root : FilePath) : Action Unit := do
  if (← Action.tree).isFile (Toolchain.headerFixer root) then
    job.runTool machine "gbafix" (Toolchain.headerFixer root) [job.imagePath.text]

/-- Links an Advance image, pads it and fixes its header. -/
def linkAdvance (job : LinkJob) (machine : Machine) (root arm : FilePath) : Action Unit := do
  job.runTool machine "Linking" job.toolchain.compiler advanceLinkArgs
  Action.checkpoint
  job.convert machine arm
  Action.checkpoint
  let _ ← padImage job.imagePath Rom.minRomSize
  Action.checkpoint
  job.fixHeader machine root

/-- Links all objects; answers the path of the image. -/
def link (job : LinkJob) (machine : Machine) : Action FilePath := do
  Action.checkpoint
  let list := job.root.join linkFile
  Action.createParent (.ofFault "create") list
  Action.write list (linkManifest job.objects).toUTF8
  let folder := job.root.join romFolder
  Action.attempt (.ofFault "create" folder) (·.createFolders folder)
  match job.toolchain with
  | .gbdk _ => job.linkGameBoy machine
  | .devkit root arm => job.linkAdvance machine root arm
  return job.imagePath

end LinkJob

end Cartridge.Build
