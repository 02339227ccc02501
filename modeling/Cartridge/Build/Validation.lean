import Cartridge.Compile.Reporter
import Cartridge.Files.Tree
import Cartridge.Platform
import Cartridge.Text.Blank

/-!
# Checks of a written build

The engine has room for a number of variables, which its header names.  A project with more of
them builds, but does not work; that is a warning.
-/

namespace Cartridge.Build

open Cartridge.Files (FileTree FilePath)

/-- The words of a text between blanks. -/
def wordsOf (text : String) : List String :=
  ((Text.pieces Text.isBlank text.toList).filter (!·.isEmpty)).map String.ofList

/-- The value of a decimal number, which may have a plus sign, within 64 bits. -/
def decimal64? (text : String) : Option Nat :=
  let digits := match text.toList with
    | '+' :: rest => rest
    | all => all
  if digits.isEmpty || !digits.all Char.isDigit then none
  else
    let n := digits.foldl (fun n c => n * 10 + (c.toNat - '0'.toNat)) 0
    if n < Nat.pow 2 64 then some n else none

/-- What follows a start in a text. -/
def afterStart? (start text : String) : Option String :=
  (start.toList.isPrefixOf? text.toList).map String.ofList

/-- The number that a line gives to a name, as a definition or as an assignment. -/
def lineNumber? (name line : String) : Option Nat := do
  let line := Text.trim line
  let rest := match afterStart? "#define " line with
    | some rest => Text.trimStart rest
    | none => line
  let value := (Text.trimStart (← afterStart? name rest)).toList.dropWhile (· == '=')
  decimal64? (← (wordsOf (String.ofList value)).head?)

/-- The first number that a line of a text gives to a name. -/
def numberIn? (text name : String) : Option Nat :=
  (Text.lines text).findSome? (lineNumber? name)

/-- The warning about a missing header. -/
def missingHeader : String :=
  "VM header file (vm.h) not found. This may indicate an incomplete engine installation."

/-- The warning about numbers that cannot be found. -/
def missingNumbers : String :=
  "Unable to read VM_HEAP_SIZE and MAX_GLOBAL_VARS to determine if project contains too many " ++
    "unique variables"

/-- The warning about more variables than fit. -/
def tooManyVariables (heap used : Nat) : String :=
  "Your project contains too many unique variables and will not work as expected. VM_HEAP_SIZE " ++
    "defines the maximum amount of variables allowed " ++ toString heap ++
    " but your project contained " ++ toString used ++ " unique variables."

/-- Compares the room for variables with their number. -/
def variableWarnings (header globals : String) : List String :=
  match numberIn? header "VM_HEAP_SIZE", numberIn? globals "MAX_GLOBAL_VARS" with
  | some heap, some used => if heap < used then [tooManyVariables heap used] else []
  | _, _ => [missingNumbers]

/-- The warnings about a written build; the engine of the Advance has no such limit. -/
def validationWarnings (tree : FileTree) (root : FilePath) (platform : Platform) : List String :=
  if platform.isAdvance then []
  else
    match tree.readText (root.join "include/vm.h") with
    | .error _ => [missingHeader]
    | .ok header =>
      let globals := (tree.readText (root.join "include/data/game_globals.i")).toOption.getD ""
      variableWarnings header globals

end Cartridge.Build
