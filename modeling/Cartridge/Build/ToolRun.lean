import Cartridge.Build.Action
import Cartridge.Build.Environment
import Cartridge.Build.Machine
import Cartridge.Build.Plan
import Cartridge.Text.Blank

/-!
# Running tools

A tool that ends without success fails the build, unless all it printed is known to be harmless.
-/

namespace Cartridge.Build

open Cartridge.Files (FilePath)

/-- Marks of lines that report no problem. -/
def harmlessMarks : List String :=
  ["Converted build"]

/-- The line reports no problem. -/
def isHarmless (line : String) : Bool :=
  harmlessMarks.any fun mark => Text.occursIn mark line

/-- The lines that a tool has printed, without empty ones. -/
def printedLines (bytes : List UInt8) : List String :=
  (Text.lines (Text.lossy bytes)).filter fun line => Text.trim line ≠ ""

/-- What a tool has to say: its errors, and its output too when it failed. -/
def diagnostics (execution : Execution) : List String :=
  printedLines execution.errors ++
    if execution.exit.isSuccess then [] else printedLines execution.output

/-- The name of a tool in messages. -/
def Tool.name (tool : Tool) : String :=
  tool.program.fileStem?.getD tool.program.text

/-- A tool fails with its status, unless all that it reported is harmless. -/
def Tool.result (tool : Tool) (execution : Execution) : Except Error Unit :=
  let lines := diagnostics execution
  let serious := lines.filter fun line => !isHarmless line
  if execution.exit.isSuccess || (serious.isEmpty && !lines.isEmpty) then .ok ()
  else .error (.toolFailed tool.name execution.exit.text (Text.joinWith "\n" serious))

/-- The call of a tool in a folder. -/
def Tool.invocation (tool : Tool) (folder : FilePath) (env : Environment) : Invocation where
  program := tool.program
  args := tool.args
  folder := folder
  vars := env.vars

/-- Runs a tool on the files of the build, whether or not it ends well. -/
def Tool.start (tool : Tool) (machine : Machine) (folder : FilePath) (env : Environment) :
    Action Execution :=
  ExceptT.mk fun world =>
    match machine (tool.invocation folder env) world.tree with
    | .ok execution => (.ok execution, { world with tree := execution.tree })
    | .error fault =>
      (.error (.io ("failed to start " ++ tool.program.text) [fault.message]), world)

/-- Runs a tool.  What it did before the build was cancelled does not count. -/
def Tool.run (tool : Tool) (machine : Machine) (folder : FilePath) (env : Environment) :
    Action Unit := do
  Action.checkpoint
  let execution ← tool.start machine folder env
  Action.checkpoint
  ExceptT.mk fun world => (tool.result execution, world)

end Cartridge.Build
