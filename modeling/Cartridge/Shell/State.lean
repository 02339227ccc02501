import Cartridge.Build.Machine
import Cartridge.Shell.Bytes
import Cartridge.Shell.Command

/-!
# State of a script

What a running script knows: the files, its variables and arguments, where its streams lead to, and
how it goes on.  Several streams, also those of several programs, may lead to one channel; they
share its position.
-/

namespace Cartridge.Shell

open Cartridge.Build (Exit)
open Cartridge.Files (FileTree FilePath Fault Location)

/-- Where streams lead to. -/
inductive Channel
  /-- Holds nothing and keeps nothing. -/
  | nothing
  /-- Collects what is written. -/
  | buffer (data : ByteArray)
  /-- Holds bytes that are read one after the other. -/
  | supply (data : ByteArray) (position : Nat)
  /-- A file that is read from a position on. -/
  | reading (place : Location) (position : Nat)
  /-- A file that is written at a position, or at its end. -/
  | writing (place : Location) (position : Option Nat)

/-- A variable. -/
structure Variable where
  value : Option String := none
  /-- Programs see the variable. -/
  exported : Bool := false

/-- How a script goes on, other than with the next command. -/
inductive Jump
  | exit (exit : Exit)
  /-- An error ends the script. -/
  | abort
  /-- Leaves loops; the outermost of them goes on where `again` holds. -/
  | loop (again : Bool) (levels : Nat)
  /-- Leaves a function. -/
  | leave

/-- The state of a script. -/
structure State where
  tree : FileTree
  /-- The name that the script was called by. -/
  name : String
  arguments : List String := []
  vars : List (String × Variable) := []
  functions : List (String × Command) := []
  documents : Array Word := #[]
  channels : Array Channel := #[]
  /-- The channels that streams lead to. -/
  streams : List (Nat × Nat) := []
  /-- Letters of options that are set. -/
  options : List Char := []
  status : Nat := 0
  /-- The status of the last substitution. -/
  substituted : Nat := 0
  /-- The answer of the current command is looked at. -/
  guarded : Bool := false
  /-- Loops around the current command. -/
  loops : Nat := 0
  /-- The line of the current command. -/
  line : Nat := 1
  /-- The command of the shell that is run. -/
  command : Option String := none
  /-- The process of the script. -/
  process : Nat := 1000
  jump : Option Jump := none

/-- The path that a text of a script names. -/
def pathOf (s : String) : FilePath := ⟨written s⟩

/-- Bytes in a file from a position on; what lies between the end and the position is zero. -/
def spliceBytes (old : ByteArray) (position : Nat) (new : List UInt8) : ByteArray :=
  let before := old.data.toList.take position
  let gap := List.replicate (position - before.length) 0
  ⟨(before ++ gap ++ new ++ old.data.toList.drop (position + new.length)).toArray⟩

namespace State

/-! ## Streams -/

/-- Adds a channel, and lets a stream lead to it. -/
def connectNew (state : State) (stream : Nat) (channel : Channel) : State :=
  { state with
    channels := state.channels.push channel
    streams := (stream, state.channels.size) :: state.streams.filter (·.1 ≠ stream) }

/-- Lets a stream lead where another one leads, if that leads anywhere. -/
def connectSame (state : State) (stream other : Nat) : Option State :=
  (state.streams.lookup other).map fun number =>
    { state with streams := (stream, number) :: state.streams.filter (·.1 ≠ stream) }

/-- The channel that a stream leads to, with its number. -/
def channel? (state : State) (stream : Nat) : Option (Nat × Channel) := do
  let number ← state.streams.lookup stream
  return (number, ← state.channels[number]?)

/-- What the channel of a stream has collected. -/
def collected (state : State) (stream : Nat) : List UInt8 :=
  match state.channel? stream with
  | some (_, .buffer data) => data.data.toList
  | _ => []

/-- Writes bytes to a stream. -/
def writeTo (state : State) (stream : Nat) (bytes : List UInt8) : Except Fault State :=
  match state.channel? stream with
  | some (_, .nothing) => .ok state
  | some (number, .buffer data) =>
    .ok { state with channels := state.channels.set! number (.buffer (data ++ ⟨bytes.toArray⟩)) }
  | some (number, .writing place position) =>
    match state.tree.at? place with
    | some (.file content executable) =>
      let start := position.getD content.data.size
      let new := spliceBytes content.data start bytes
      .ok { state with
        tree := state.tree.put place (.file (.bytes new) executable)
        channels := state.channels.set! number
          (.writing place (position.map fun _ => start + bytes.length)) }
    | _ => .ok state
  | _ => .error .badStream

/-- Writes bytes to a stream where that is possible. -/
def emit (state : State) (stream : Nat) (bytes : List UInt8) : State :=
  match state.writeTo stream bytes with
  | .ok state => state
  | .error _ => state

/-- Prints a text. -/
def print (state : State) (text : String) : State :=
  state.emit 1 (bytesOf text)

/-- Prints a text where messages go. -/
def complain (state : State) (text : String) : State :=
  state.emit 2 (bytesOf text)

/-- Reads bytes from a stream; `choose` says how many of those that are left. -/
def readWith (state : State) (stream : Nat) (choose : List UInt8 → Nat) :
    Except Fault (List UInt8 × State) :=
  match state.channel? stream with
  | some (_, .nothing) => .ok ([], state)
  | some (number, .supply data position) =>
    let left := data.data.toList.drop position
    let count := min (choose left) left.length
    .ok (left.take count,
      { state with channels := state.channels.set! number (.supply data (position + count)) })
  | some (number, .reading place position) =>
    match state.tree.at? place with
    | some (.file content _) =>
      let left := content.data.data.toList.drop position
      let count := min (choose left) left.length
      .ok (left.take count,
        { state with channels := state.channels.set! number (.reading place (position + count)) })
    | some .folder => .error .isFolder
    | none => .ok ([], state)
  | _ => .error .badStream

/-- Reads all that a stream has left. -/
def readAll (state : State) (stream : Nat) : Except Fault (List UInt8 × State) :=
  state.readWith stream List.length

/-- Opens a file to be read by a stream. -/
def openRead (state : State) (stream : Nat) (path : String) : Except Fault State := do
  if path == "/dev/null" then return state.connectNew stream .nothing
  let place ← state.tree.locate (pathOf path)
  match state.tree.at? place with
  | none => .error .notFound
  | some _ => return state.connectNew stream (.reading place 0)

/-- Opens a file to be written by a stream, which is emptied unless bytes are added to it. -/
def openWrite (state : State) (stream : Nat) (path : String) (append : Bool) :
    Except Fault State := do
  if path == "/dev/null" then return state.connectNew stream .nothing
  let place ← state.tree.locateFile (pathOf path)
  let isNew := (state.tree.at? place).isNone
  let tree ← if isNew || !append then state.tree.write (pathOf path) .empty else pure state.tree
  return { state with tree := tree }.connectNew stream
    (.writing place (if append then none else some 0))

/-! ## Status -/

/-- Ends a command with a status. -/
def answer (state : State) (status : Nat) : State :=
  { state with status := status }

/-- Ends a command with the status of a condition. -/
def answerIf (state : State) (condition : Bool) : State :=
  state.answer (if condition then 0 else 1)

/-- Prints a message that names the script, the line and the command of the shell. -/
def warn (state : State) (text : String) : State :=
  let command := match state.command with
    | some name => name ++ ": "
    | none => ""
  state.complain (state.name ++ ": " ++ toString state.line ++ ": " ++ command ++ text ++ "\n")

/-- Prints a message and ends the script, unless the command is one that lets it go on. -/
def fail (state : State) (text : String) : State :=
  { state.warn text with status := 2, jump := some .abort }

/-- An option is set. -/
def has (state : State) (option : Char) : Bool :=
  state.options.contains option

/-! ## Variables -/

/-- The value of a variable. -/
def value? (state : State) (name : String) : Option String :=
  (state.vars.lookup name).bind (·.value)

/-- Puts a variable in its place, or behind the others. -/
def putVariable (state : State) (name : String) (v : Variable) : State :=
  if (state.vars.lookup name).isSome then
    { state with vars := state.vars.map fun entry => if entry.1 == name then (name, v) else entry }
  else { state with vars := state.vars ++ [(name, v)] }

/-- Assigns a variable. -/
def assign (state : State) (name value : String) : State :=
  state.putVariable name { (state.vars.lookup name).getD {} with value := some value }

/-- Assigns a variable that programs see. -/
def assignExported (state : State) (name value : String) : State :=
  state.putVariable name { value := some value, exported := true }

/-- Removes a variable. -/
def unassign (state : State) (name : String) : State :=
  { state with vars := state.vars.filter (·.1 ≠ name) }

/-- The characters that cut values into fields. -/
def separators (state : State) : List Char :=
  ((state.value? "IFS").getD " \t\n").toList

end State

end Cartridge.Shell
