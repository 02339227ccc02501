import Cartridge.Shell.Run

/-!
# A machine for scripts

The machine that runs the scripts of tools: a shell, the usual programs of the system, and
executable files that name one of them in their first line.
-/

namespace Cartridge.Shell

open Cartridge.Build (Invocation Machine)
open Cartridge.Files (FileTree)

/-- The steps inside each other that a run may take. -/
def maxSteps : Nat := 100000

/-- Variables with others put over them. -/
def overlayVariables (below above : List (String × String)) : List (String × String) :=
  below.map (fun entry => (entry.1, (above.reverse.lookup entry.1).getD entry.2)) ++
    (above.filter fun entry => (below.lookup entry.1).isNone)

/-- A call holds a zero, at which the system would cut a text. -/
def holdsZero (call : Invocation) : Bool :=
  let texts := call.program.text :: call.folder.text :: call.args ++
    call.vars.flatMap fun entry => [entry.1, entry.2]
  texts.any fun text => text.toList.contains (Char.ofNat 0)

/-- The state in which a program is called. -/
def callState (tree : FileTree) (vars : List (String × String)) : State where
  tree := tree
  name := ""
  channels := #[.nothing, .buffer .empty, .buffer .empty]
  streams := [(0, 0), (1, 1), (2, 2)]
  vars := vars.map fun entry =>
    (ofWritten entry.1, { value := some (ofWritten entry.2), exported := true })

/-- The machine that runs scripts, with variables of its own.  The program is looked for from the
folder of the call on.  Where the call sets the search path, the one that looks for the program also
lets the shell read files that name no program. -/
def machine (inherited : List (String × String)) : Machine := fun call tree =>
  if holdsZero call then .error .zeroInCall
  else do
    match ← tree.find call.folder with
    | .file _ _ => .error .notFolder
    | .folder =>
      let place ← tree.locate call.folder
      let vars := overlayVariables inherited call.vars
      let state := callState { withSystem tree with current := place } vars
      let searchPath := (state.value? "PATH").getD defaultSearchPath
      let scripts := (call.vars.lookup "PATH").isSome
      let start ← startNamed state.tree searchPath scripts (ofWritten call.program.text)
        (call.args.map ofWritten)
      let after := runStart maxSteps start state
      return {
        exit := after.exit
        output := after.collected 1
        errors := after.collected 2
        tree := { withoutSystem tree after.tree with current := tree.current } }

/-- The variables of a machine that has no others. -/
def plainVariables : List (String × String) :=
  [("PATH", "/usr/bin:/bin")]

end Cartridge.Shell
