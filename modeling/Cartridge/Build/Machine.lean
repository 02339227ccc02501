import Cartridge.Files.Tree

/-!
# Machines

A machine runs programs on a tree of files.  Builds are written for any machine.
-/

namespace Cartridge.Build

open Cartridge.Files (FileTree FilePath Fault)

/-- How a program ended. -/
inductive Exit
  | code (n : Nat)
  | signal (n : Nat)
  deriving DecidableEq

namespace Exit

/-- The program ended well. -/
def isSuccess (exit : Exit) : Bool :=
  exit == .code 0

/-- The names of signals, from number one on. -/
def signalNames : List String :=
  ["SIGHUP", "SIGINT", "SIGQUIT", "SIGILL", "SIGTRAP", "SIGABRT", "SIGBUS", "SIGFPE", "SIGKILL",
    "SIGUSR1", "SIGSEGV", "SIGUSR2", "SIGPIPE", "SIGALRM", "SIGTERM", "SIGSTKFLT", "SIGCHLD",
    "SIGCONT", "SIGSTOP", "SIGTSTP", "SIGTTIN", "SIGTTOU", "SIGURG", "SIGXCPU", "SIGXFSZ",
    "SIGVTALRM", "SIGPROF", "SIGWINCH", "SIGIO", "SIGPWR", "SIGSYS"]

/-- The name of a signal, where it has one. -/
def signalName? (n : Nat) : Option String :=
  if n = 0 then none else signalNames[n - 1]?

/-- How a program ended, for a message. -/
def text : Exit → String
  | .code n => "exit status: " ++ toString n
  | .signal n =>
    "signal: " ++ toString n ++
      match signalName? n with
      | some name => " (" ++ name ++ ")"
      | none => ""

end Exit

/-- A call of a program. -/
structure Invocation where
  program : FilePath
  args : List String
  /-- The folder that the program runs in. -/
  folder : FilePath
  /-- Variables that are set on top of those of the machine. -/
  vars : List (String × String)

/-- What a program did. -/
structure Execution where
  exit : Exit
  output : List UInt8 := []
  errors : List UInt8 := []
  tree : FileTree

/-- Runs programs, or answers why one cannot be started. -/
abbrev Machine := Invocation → FileTree → Except Fault Execution

end Cartridge.Build
