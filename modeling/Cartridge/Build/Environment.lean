import Cartridge.Build.Features
import Cartridge.Build.Toolchain
import Cartridge.Digest.Key

/-!
# Environment of the tools

Variables that are set for every tool, sorted by name.  Their signature covers all that can change
what a compiler makes, so not the search path and the folders for temporary files.
-/

namespace Cartridge.Build

open Cartridge.Digest (Key)
open Cartridge.Files (FilePath)

/-- Variables and their values, sorted by name. -/
structure Environment where
  vars : List (String × String) := []

namespace Environment

/-- Sets a variable in a list that is sorted by name. -/
def insertVariable (name value : String) : List (String × String) → List (String × String)
  | [] => [(name, value)]
  | (other, old) :: rest =>
    if name < other then (name, value) :: (other, old) :: rest
    else if name = other then (name, value) :: rest
    else (other, old) :: insertVariable name value rest

/-- Sets one variable. -/
def set (env : Environment) (name value : String) : Environment :=
  ⟨insertVariable name value env.vars⟩

/-- Sets variables one after the other. -/
def setAll (env : Environment) (entries : List (String × String)) : Environment :=
  entries.foldl (fun env entry => env.set entry.1 entry.2) env

/-- The value of a variable. -/
def get? (env : Environment) (name : String) : Option String :=
  env.vars.lookup name

/-- Variables that differ between machines and never change what a compiler makes. -/
def unsigned : List String :=
  ["PATH", "TMP", "TEMP"]

/-- The variables that the signature covers. -/
def signed (env : Environment) : List (String × String) :=
  env.vars.filter fun entry => !unsigned.contains entry.1

/-- The digest of the variables that compilations depend on. -/
def signature (env : Environment) : Key :=
  .ofCalls "toolchain-env" (env.signed.flatMap fun entry => [.text entry.1, .text entry.2])

/-- The search path with a folder in front; a folder that cannot be listed stands alone. -/
def searchPath (bin : FilePath) (inherited : Option String) : String :=
  if bin.text.toList.contains ':' then bin.text else bin.text ++ ":" ++ inherited.getD ""

/-- A variable that is there only if it is set. -/
def flag (name : String) (isSet : Bool) : List (String × String) :=
  if isSet then [(name, "true")] else []

/-- The environment of the tools of a build. -/
def forBuild (features : Features) (toolchain : Toolchain) (temporary : FilePath)
    (inheritedPath : Option String) : Environment :=
  setAll {} ([("PATH", searchPath toolchain.bin inheritedPath)] ++ toolchain.rootVariables ++
    [("TARGET_PLATFORM", features.platform.envName), ("CART_TYPE", features.controllerName),
      ("COLOR_MODE", features.colorModeName), ("MUSIC_DRIVER", features.musicDriver.define),
      ("RUMBLE_ENABLE", features.rumbleBit),
      ("GBDK_COMPILER_PRESET", toString features.preset.toNat)] ++
    flag "COLOR" features.color ++ flag "SGB" features.sgb ++
    flag "BATTERYLESS" features.batteryless ++ flag "DEBUG" features.debug ++
    [("TMP", temporary.text), ("TEMP", temporary.text)])

end Environment

end Cartridge.Build
