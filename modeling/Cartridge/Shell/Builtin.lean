import Cartridge.Shell.Expansion
import Cartridge.Shell.Format
import Cartridge.Shell.Reader

/-!
# Commands of the shell

The commands that are part of the shell and run no other command.
-/

namespace Cartridge.Shell

open Cartridge.Build (Exit)
open Cartridge.Files (FileTree Location)

/-! ## Printing -/

/-- Prints a text and ends with a status; output that cannot be written is an error. -/
def putStatus (state : State) (status : Nat) (text : String) : State :=
  if text == "" then state.answer status
  else
    match state.writeTo 1 (bytesOf text) with
    | .ok state => state.answer status
    | .error _ =>
      (state.warn (state.command.getD "" ++ ": I/O error")).answer (max status 1)

/-- Prints a format with its arguments. -/
def runPrintf (state : State) : List String → State
  | [] => state.fail "usage: printf format [arg ...]"
  | format :: args =>
    let printed := printFormat format args
    let state := printed.complaints.foldl State.warn state
    match printed.fault with
    | some fault => (state.print printed.text).fail fault
    | none => putStatus state (if printed.complaints.isEmpty then 0 else 1) printed.text

/-! ## Conditions -/

/-- A test of one text, if there is one under the name. -/
def unaryTest? (tree : FileTree) (operator : String) (arg : String) : Option Bool :=
  let found := (tree.find (pathOf arg)).toOption
  match operator with
  | "-n" => some (arg != "")
  | "-z" => some (arg == "")
  | "-f" => some (tree.isFile (pathOf arg))
  | "-d" => some (tree.isFolder (pathOf arg))
  | "-e" | "-r" | "-w" => some found.isSome
  | "-s" => some (found.any fun
    | .file content _ => content.data.size != 0
    | .folder => true)
  | "-x" => some (found.any fun
    | .file _ executable => executable
    | .folder => true)
  | _ => none

/-- A comparison of two numbers, if there is one under the name. -/
def numberTest? (operator : String) (a b : Int) : Option Bool :=
  match operator with
  | "-eq" => some (a == b)
  | "-ne" => some (a != b)
  | "-ge" => some (b ≤ a)
  | "-gt" => some (b < a)
  | "-le" => some (a ≤ b)
  | "-lt" => some (a < b)
  | _ => none

/-- The answer of a condition, or what is wrong with it. -/
def condition (tree : FileTree) : List String → Except String Bool
  | [] => .ok false
  | ["!"] => .ok true
  | [arg] => .ok (arg != "")
  | [a, "=", b] => .ok (a == b)
  | [a, "!=", b] => .ok (a != b)
  | "!" :: args => (condition tree args).map (!·)
  | [operator, arg] =>
    match unaryTest? tree operator arg with
    | some answer => .ok answer
    | none => .error (operator ++ ": unexpected operator")
  | [a, operator, b] => do
    let number (text : String) : Except String Int :=
      match wholeInteger? false text with
      | some n => .ok n
      | none => .error ("Illegal number: " ++ text)
    if (numberTest? operator 0 0).isNone then .error (a ++ ": unexpected operator")
    else return (numberTest? operator (← number a) (← number b)).getD false
  | first :: _ => .error (first ++ ": unexpected operator")

/-- Tests files, texts or numbers. -/
def runTest (state : State) (args : List String) : State :=
  match condition state.tree args with
  | .ok answer => state.answerIf answer
  | .error message => state.fail message

/-! ## Control -/

/-- A step with the number that an argument writes. -/
def withCount (state : State) (arg : String) (step : Nat → State) : State :=
  let isNumber (arg : String) := arg != "" && arg.toList.all Char.isDigit
  match (some arg).filter isNumber >>= String.toNat? with
  | some n => step n
  | none => state.fail ("Illegal number: " ++ arg)

/-- Ends the script. -/
def runExit (state : State) (args : List String) : State :=
  withCount state (args.headD (toString state.status)) fun n =>
    { state with jump := some (.exit (.code (n % 256))) }

/-- Leaves a function. -/
def runReturn (state : State) (args : List String) : State :=
  withCount state (args.headD (toString state.status)) fun n =>
    { state.answer n with jump := some .leave }

/-- Leaves loops, or goes on with the next turn of one. -/
def runLoopJump (state : State) (again : Bool) (args : List String) : State :=
  withCount state (args.headD "1") fun n =>
    if n = 0 then state.fail ("Illegal number: " ++ args.headD "1")
    else if state.loops = 0 then state.answer 0
    else { state.answer 0 with jump := some (.loop again (min n state.loops)) }

/-- Drops the first arguments of the script. -/
def runShift (state : State) (args : List String) : State :=
  withCount state (args.headD "1") fun n =>
    if state.arguments.length < n then state.fail "can't shift that many"
    else { state.answer 0 with arguments := state.arguments.drop n }

/-! ## Folders and variables -/

/-- The absolute path of a location. -/
def absoluteText (place : Location) : String :=
  ofWritten ("/" ++ "/".intercalate place)

/-- Goes to a folder. -/
def runCd (state : State) (args : List String) : State :=
  let target := args.headD ((state.value? "HOME").getD "")
  let path := pathOf (if target == "" then "." else target)
  match state.tree.isFolder path, state.tree.locate path with
  | true, .ok place =>
    let state := { state with tree := { state.tree with current := place } }
    (state.assignExported "PWD" (absoluteText place)).answer 0
  | _, _ => state.fail ("can't cd to " ++ target)

/-- Lets programs see variables, which may be assigned, too. -/
def runExport (state : State) (args : List String) : State :=
  args.foldl (fun state arg =>
    let name := String.ofList (arg.toList.takeWhile (· != '='))
    let value := if name.length < arg.length
      then some (String.ofList (arg.toList.drop (name.length + 1))) else state.value? name
    if state.jump.isSome then state
    else if !isName name then state.fail (name ++ ": bad variable name")
    else state.putVariable name ⟨value, true⟩) (state.answer 0)

/-- Sets options at the start of arguments; what follows them are the arguments of the script. -/
def runSet : State → List String → State
  | state, [] => state.answer 0
  | state, arg :: rest =>
    match arg.toList with
    | ['-', '-'] => { state.answer 0 with arguments := rest }
    | '-' :: letters =>
      match letters.find? fun c => !"efu".toList.contains c with
      | some c => state.fail ("Illegal option -" ++ String.singleton c)
      | none => runSet { state with options := state.options ++ letters } rest
    | '+' :: letters =>
      runSet { state with options := state.options.filter (!letters.contains ·) } rest
    | _ => { state.answer 0 with arguments := arg :: rest }

/-! ## Input -/

/-- The texts of at most `count` fields; the last one takes the rest of the line. -/
def readFields (separators : List Char) : (count : Nat) → List Char → List String
  | 0, _ => []
  | count + 1, line =>
    let isSeparator := fun c => separators.contains c
    let line := line.dropWhile isSeparator
    let field := if count = 0 then (line.reverse.dropWhile isSeparator).reverse
      else line.takeWhile fun c => !isSeparator c
    String.ofList field :: readFields separators count (line.drop field.length)

/-- Reads a line into variables; a line without an end answers like a missing one. -/
def runRead (state : State) (args : List String) : State :=
  let names := args.filter (· != "-r")
  let lineLength (left : List UInt8) := (left.takeWhile (· != 10)).length + 1
  let (bytes, state) := match state.readWith 0 lineLength with
    | .ok result => result
    | .error _ => ([], state)
  let line := (ofBytes (bytes.filter fun b => b != 0 && b != 10)).toList
  let assigned := (names.zip (readFields state.separators names.length line)).foldl
    (fun state entry => state.assign entry.1 entry.2) state
  if names.isEmpty then state.fail "arg count" else assigned.answerIf (bytes.getLast? == some 10)

/-! ## Signals -/

/-- The number of a signal, given by its number or its name. -/
def signalNumber? (text : String) : Option Nat :=
  match String.toNat? text with
  | some n => some n
  | none => (Exit.signalNames.findIdx? (· == "SIG" ++ text)).map (· + 1)

/-- Signals that do nothing to a program that does not ask for them. -/
def harmlessSignals : List Nat := [0, 17, 18, 23, 28]

/-- Sends a signal to the script itself. -/
def runKill (state : State) (args : List String) : State :=
  let (signal, targets) := match args with
    | arg :: rest => if arg.toList.head? == some '-' then (String.ofList (arg.toList.drop 1), rest)
      else ("TERM", args)
    | [] => ("TERM", [])
  match signalNumber? signal, targets with
  | none, _ => state.fail ("Illegal option -" ++ String.ofList (signal.toList.take 1))
  | some _, [] => state.fail "Usage: kill [-s sigspec | -signum | -sigspec] [pid | job]..."
  | some n, target :: _ =>
    withCount state target fun process =>
      if process ≠ state.process then (state.warn "No such process\n").answer 1
      else if harmlessSignals.contains n then state.answer 0
      else { state with jump := some (.exit (.signal n)) }

/-- Commands of the shell by their names. -/
def builtin? (name : String) : Option (State → List String → State) :=
  match name with
  | ":" | "true" => some fun state _ => state.answer 0
  | "false" => some fun state _ => state.answer 1
  | "echo" => some fun state args => putStatus state 0 (echoText args)
  | "printf" => some runPrintf
  | "test" => some runTest
  | "[" => some fun state args =>
    if args.getLast? == some "]" then runTest state args.dropLast else state.fail "missing ]"
  | "exit" => some runExit
  | "return" => some runReturn
  | "break" => some fun state args => runLoopJump state false args
  | "continue" => some fun state args => runLoopJump state true args
  | "shift" => some runShift
  | "cd" => some runCd
  | "pwd" => some fun state _ => putStatus state 0 (absoluteText state.tree.current ++ "\n")
  | "export" => some runExport
  | "unset" => some fun state args => args.foldl State.unassign (state.answer 0)
  | "set" => some runSet
  | "read" => some runRead
  | "kill" => some runKill
  | _ => none

end Cartridge.Shell
