import Cartridge.Compile.Error

/-!
# Errors that stop a build

An error may be wrapped in contexts that say what was going on.  The full text of a failure names
the contexts, the error and its causes, from the outside in.
-/

namespace Cartridge.Build

open Cartridge.Files (FilePath Fault)

/-- Why a build stopped. -/
inductive Error
  | cancelled
  | toolchainMissing (toolchain vars : String) (searched : List FilePath)
  | toolFailed (tool status output : String)
  | compile (error : Compile.Error)
  | io (context : String) (cause : Compile.Cause)
  | cache (text : String)
  deriving DecidableEq

namespace Error

/-- The places that were searched, for a message. -/
def searchedText (paths : List FilePath) : String :=
  if paths.isEmpty then "no candidate locations" else Text.joinWith ", " (paths.map (·.text))

/-- The text of an error, without its causes. -/
def message : Error → String
  | .cancelled => "BUILD_CANCELLED"
  | .toolchainMissing toolchain vars searched =>
    toolchain ++ " not found (looked in " ++ searchedText searched ++
      "). Install it and set " ++ vars ++ " to the install directory."
  | .toolFailed tool status output => tool ++ " failed (" ++ status ++ ")\n" ++ output
  | .compile error => error.message
  | .io context cause => context ++ ": " ++ Compile.nearest cause
  | .cache text => "object cache: " ++ text

/-- What caused an error. -/
def cause : Error → Compile.Cause
  | .compile error => error.cause
  | .io _ cause => cause
  | _ => []

/-- An error of the compiler as one of the build; an interrupted compilation was cancelled. -/
def ofCompile : Compile.Error → Error
  | .interrupted => .cancelled
  | error => .compile error

/-- The error of a fault that an action on a path met. -/
def ofFault (action : String) (path : FilePath) (fault : Fault) : Error :=
  .io ("failed to " ++ action ++ " " ++ path.text) [fault.message]

end Error

/-- An error in the contexts that it was met in, the outermost first. -/
structure Failure where
  contexts : List String := []
  error : Error

namespace Failure

/-- All texts of a failure, from the outside in. -/
def chain (failure : Failure) : List String :=
  failure.contexts ++ failure.error.message :: failure.error.cause

/-- The text of a failure with everything around and below it. -/
def full (failure : Failure) : String :=
  Text.joinWith ": " failure.chain

/-- The outermost text of a failure. -/
def outer (failure : Failure) : String :=
  failure.chain.head?.getD ""

/-- The failure in one more context. -/
def within (context : String) (failure : Failure) : Failure :=
  { failure with contexts := context :: failure.contexts }

/-- The build was cancelled. -/
def isCancelled (failure : Failure) : Bool :=
  failure.error == .cancelled

end Failure

end Cartridge.Build
