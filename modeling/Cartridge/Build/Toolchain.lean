import Cartridge.Build.Error
import Cartridge.Files.Tree
import Cartridge.Platform

/-!
# Toolchains

Game Boy images are built with GBDK, and those for the Advance with devkitARM, which is a part of
devkitPro.  Both are looked for where environment variables say, then in usual places.
-/

namespace Cartridge.Build

open Cartridge.Files (FileTree FilePath)

/-- An installed toolchain. -/
inductive Toolchain
  | gbdk (root : FilePath)
  | devkit (root arm : FilePath)

namespace Toolchain

/-- The devkit in a folder, laid out as usual. -/
def devkitAt (root : FilePath) : Toolchain :=
  .devkit root (root.join "devkitARM")

/-- The folder with the programs of a toolchain. -/
def bin : Toolchain → FilePath
  | .gbdk root => root.join "bin"
  | .devkit _ arm => arm.join "bin"

/-- The compiler of a toolchain, which also links. -/
def compiler : Toolchain → FilePath
  | .gbdk root => (root.join "bin").join "lcc"
  | .devkit _ arm => (arm.join "bin").join "arm-none-eabi-gcc"

/-- The program that turns an executable into an image. -/
def objcopy (arm : FilePath) : FilePath :=
  (arm.join "bin").join "arm-none-eabi-objcopy"

/-- The program that completes the header of an image. -/
def headerFixer (root : FilePath) : FilePath :=
  ((root.join "tools").join "bin").join "gbafix"

/-- Variables that tell the tools where they are installed. -/
def rootVariables : Toolchain → List (String × String)
  | .gbdk root => [("GBDKDIR", root.text ++ "/")]
  | .devkit root arm => [("DEVKITPRO", root.text), ("DEVKITARM", arm.text)]

/-! ## Finding a toolchain -/

/-- Values of environment variables. -/
abbrev Variables := String → Option String

/-- The compiler of a toolchain is there. -/
def isInstalled (toolchain : Toolchain) (tree : FileTree) : Bool :=
  tree.isFile toolchain.compiler

/-- The first installed candidate; each comes with the place that a failure names. -/
def firstInstalled (tree : FileTree) (name vars : String)
    (candidates : List (Toolchain × FilePath)) : Except Error Toolchain :=
  match candidates.find? fun candidate => candidate.1.isInstalled tree with
  | some candidate => .ok candidate.1
  | none => .error (.toolchainMissing name vars (candidates.map (·.2)))

/-- Looks for the Game Boy toolchain. -/
def findGbdk (tree : FileTree) (tools : FilePath) (vars : Variables) : Except Error Toolchain :=
  let roots := (((vars "GBDK_HOME").map FilePath.mk).toList ++ [tools.join "gbdk"])
  firstInstalled tree "GBDK" "GBDK_HOME" (roots.map fun root => (.gbdk root, root))

/-- The devkit that the variables of the process name. -/
def namedDevkit? (vars : Variables) : Option (Toolchain × FilePath) :=
  (vars "DEVKITPRO").map fun root =>
    let root : FilePath := ⟨root⟩
    let arm := ((vars "DEVKITARM").map FilePath.mk).getD (root.join "devkitARM")
    (.devkit root arm, arm)

/-- Finds devkitPro, in one of the given folders when no variable names it. -/
def findDevkit (tree : FileTree) (vars : Variables) (roots : List FilePath) :
    Except Error Toolchain :=
  firstInstalled tree "devkitPro" "DEVKITPRO and DEVKITARM"
    ((namedDevkit? vars).toList ++ roots.map fun root => (devkitAt root, root))

/-- Where devkitPro is usually installed. -/
def usualDevkitRoots : List FilePath :=
  [⟨"/opt/devkitpro"⟩, ⟨"/usr/local/devkitpro"⟩]

/-- Finds the toolchain for a platform; an empty variable counts as not set. -/
def find (tree : FileTree) (platform : Platform) (tools : FilePath) (vars : Variables) :
    Except Error Toolchain :=
  let set : Variables := fun name => (vars name).filter (· ≠ "")
  if platform.isAdvance then findDevkit tree set usualDevkitRoots else findGbdk tree tools set

end Toolchain

end Cartridge.Build
