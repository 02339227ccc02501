import Cartridge.Shell.Program

/-!
# Running scripts

Commands change the state of a script.  A part that runs by itself, such as a stage of a pipe,
changes only the files and the channels of the script around it.

A run takes a bounded number of steps inside each other; one that takes more is killed.
-/

namespace Cartridge.Shell

open Cartridge.Build (Exit)
open Cartridge.Files (Fault)

/-! ## States -/

/-- The status that the end of a program leaves. -/
def statusOf : Exit → Nat
  | .code n => n
  | .signal n => 128 + n

/-- What is said about a program that a signal ended, where something is said. -/
def signalText (n : Nat) : String :=
  match n with
  | 2 | 13 => ""
  | 6 => "Aborted\n"
  | 9 => "Killed\n"
  | 11 => "Segmentation fault\n"
  | 15 => "Terminated\n"
  | n => "Signal " ++ toString n ++ "\n"

namespace State

/-- A script that takes too many steps is killed. -/
def exhausted (state : State) : State :=
  { state with jump := some (.exit (.signal 9)) }

/-- How a script ends. -/
def exit (state : State) : Exit :=
  match state.jump with
  | some (.exit exit) => exit
  | _ => .code (state.status % 256)

/-- The state after a part that ran by itself, or after a program. -/
def absorb (before after : State) : State :=
  let state := { before with
    tree := { after.tree with current := before.tree.current }
    channels := after.channels
    status := statusOf after.exit }
  match after.exit with
  | .signal n => state.complain (signalText n)
  | .code _ => state

/-- Ends a strict script after a command that failed. -/
def checked (state : State) : State :=
  if state.has 'e' && !state.guarded && state.status != 0 && state.jump.isNone then
    { state with jump := some (.exit state.exit) }
  else state

/-- Runs a step whose answer is looked at. -/
def guarding (state : State) (step : State → State) : State :=
  { step { state with guarded := true } with guarded := state.guarded }

/-- What a loop does after a turn: it goes on, or it ends. -/
def afterTurn (state : State) : State × Bool :=
  match state.jump with
  | none => (state, true)
  | some (.loop again levels) =>
    if levels ≤ 1 then ({ state with jump := none }, again)
    else ({ state with jump := some (.loop again (levels - 1)) }, false)
  | _ => (state, false)

end State

/-! ## Redirections -/

/-- What is said about a file that cannot be opened, where `missing` says that it is missing. -/
def openFaultText (action path missing : String) (fault : Fault) : String :=
  "cannot " ++ action ++ " " ++ path ++ ": " ++
    match fault with
    | .notFound | .notFolder => missing
    | fault => faultText fault

/-- Applies a redirection, or answers what is wrong with it. -/
def State.redirect (state : State) (stream : Nat) (kind : RedirectKind) (target : String) :
    Except String State :=
  match kind with
  | .read => (state.openRead stream target).mapError (openFaultText "open" target "No such file")
  | .write =>
    (state.openWrite stream target false).mapError
      (openFaultText "create" target "Directory nonexistent")
  | .append =>
    (state.openWrite stream target true).mapError
      (openFaultText "create" target "Directory nonexistent")
  | .document _ => .ok (state.connectNew stream (.supply ⟨(bytesOf target).toArray⟩ 0))
  | .duplicate =>
    match (String.toNat? target).bind (state.connectSame stream) with
    | some state => .ok state
    | none =>
      if target == "-" then .ok { state with streams := state.streams.filter (·.1 ≠ stream) }
      else .error (target ++ ": " ++ faultText .badStream)

/-- Applies redirections one after the other; a wrong one is told and answered with an error. -/
def State.redirectAll (substitute : Substitute) : List Redirect → State → State × Bool
  | [], state => (state, true)
  | .mk stream kind target :: rest, state =>
    let word := match kind with
      | .document number => state.documents.getD number []
      | _ => target
    let (text, state) := expandText substitute word state
    if state.jump.isSome then (state, false)
    else
      match state.redirect stream kind text with
      | .ok state => state.redirectAll substitute rest
      | .error message => ((state.warn message).answer 2, false)

/-! ## Starting the shell -/

/-- The variables that a shell starts with. -/
def shellVariables (state : State) : List (String × Variable) :=
  let given := state.vars.filter fun entry => isName entry.1 && entry.1 != "IFS" && entry.1 != "PWD"
  let path := if (given.lookup "PATH").isSome then []
    else [("PATH", ⟨some "/usr/local/sbin:/usr/local/bin:/usr/sbin:/usr/bin:/sbin:/bin", false⟩)]
  given ++ path ++ [("IFS", ⟨some " \t\n", false⟩),
    ("PWD", ⟨some (absoluteText state.tree.current), true⟩)]

/-- The start of a shell with its arguments: the state, and the text that it runs. -/
def startShell (state : State) : (args : List String) → State × String
  | [] =>
    match state.readAll 0 with
    | .ok (bytes, state) => (state, ofBytes bytes)
    | .error _ => (state, "")
  | arg :: rest =>
    match arg.toList, rest with
    | ['-', 'c'], [text] => (state, text)
    | ['-', 'c'], text :: name :: arguments =>
      ({ state with name := name, arguments := arguments }, text)
    | ['-', 'c'], [] => ({ state with line := 0 }.fail "-c requires an argument", "")
    | '-' :: letters, rest => startShell { state with options := state.options ++ letters } rest
    | _, arguments =>
      match state.tree.read (pathOf arg) with
      | .ok data =>
        ({ state with name := arg, arguments := arguments }, ofBytes data.data.toList)
      | .error .isFolder => ({ state with name := arg }, "")
      | .error fault =>
        ({ state with line := 0 }.fail (openFaultText "open" arg "No such file" fault), "")

/-! ## Running -/

mutual

/-- Runs a command for what it prints. -/
def substitute : (steps : Nat) → Command → State → String × State
  | 0, _, state => ("", state.exhausted)
  | steps + 1, body, state =>
    let after := runCommand steps body
      ({ state with guarded := false }.connectNew 1 (.buffer .empty))
    let absorbed := state.absorb after
    (ofBytes (after.collected 1),
      { absorbed with status := state.status, substituted := absorbed.status })

/-- Runs the commands of a script that are left; without any command its status is zero. -/
def runSource : (steps : Nat) → Source → (ran : Bool) → State → State
  | 0, _, _, state => state.exhausted
  | steps + 1, source, ran, state =>
    match source.next? with
    | .error fault => { state with line := fault.line }.fail fault.message
    | .ok none => if ran then state else state.answer 0
    | .ok (some (.idle, rest)) =>
      runSource steps rest ran { state with documents := rest.documents }
    | .ok (some (command, rest)) =>
      let state := runCommand steps command { state with documents := rest.documents }
      if state.jump.isSome then state else runSource steps rest true state

/-- Runs a command. -/
def runCommand : (steps : Nat) → Command → State → State
  | 0, _, state => state.exhausted
  | steps + 1, command, state =>
    if state.jump.isSome then state
    else
      match command with
      | .idle => state
      | .simple line assignments words redirects =>
        (runSimple steps assignments words redirects
          { state with line := line, substituted := 0 }).checked
      | .sequence first second => runCommand steps second (runCommand steps first state)
      | .both first second =>
        let state := state.guarding (runCommand steps first)
        if state.status = 0 then runCommand steps second state else state
      | .either first second =>
        let state := state.guarding (runCommand steps first)
        if state.status = 0 then state else runCommand steps second state
      | .negated body =>
        let state := state.guarding (runCommand steps body)
        if state.jump.isSome then state else state.answerIf (state.status ≠ 0)
      | .piped stages => (runStages steps stages none state).checked
      | .conditional test yes no =>
        let state := state.guarding (runCommand steps test)
        if state.jump.isSome then state
        else if state.status = 0 then runCommand steps yes state
        else
          match no with
          | some no => runCommand steps no state
          | none => state.answer 0
      | .repeated expected test body =>
        let after := runLoop steps expected test body 0 { state with loops := state.loops + 1 }
        { after with loops := state.loops }
      | .forEach line name items body =>
        let (values, state) := match items with
          | some words => expandWords (substitute steps) words { state with line := line }
          | none => (state.arguments, state)
        if state.jump.isSome then state
        else
          let after := runTurns steps name body values
            { state.answer 0 with loops := state.loops + 1 }
          { after with loops := state.loops }
      | .selection line subject branches =>
        let (text, state) := expandText (substitute steps) subject { state with line := line }
        if state.jump.isSome then state else runBranches steps text.toList branches state
      | .enclosed body => (state.absorb (runCommand steps body state)).checked
      | .redirected line body redirects =>
        match { state with line := line }.redirectAll (substitute steps) redirects with
        | (inner, true) => { runCommand steps body inner with streams := state.streams }
        | (inner, false) => { inner with streams := state.streams }
      | .define name body =>
        { state.answer 0 with
          functions := (name, body) :: state.functions.filter (·.1 ≠ name) }

/-- Runs the turns of a loop with a test; `last` is the status of the turn before. -/
def runLoop : (steps : Nat) → (expected : Bool) → (test body : Command) → (last : Nat) → State →
    State
  | 0, _, _, _, _, state => state.exhausted
  | steps + 1, expected, test, body, last, state =>
    let tested := state.guarding (runCommand steps test)
    if tested.jump.isSome then tested
    else if decide (tested.status = 0) == expected then
      match (runCommand steps body tested).afterTurn with
      | (state, true) => runLoop steps expected test body state.status state
      | (state, false) => state
    else tested.answer last

/-- Runs the turns of a loop over values. -/
def runTurns : (steps : Nat) → (name : String) → Command → List String → State → State
  | 0, _, _, _, state => state.exhausted
  | _ + 1, _, _, [], state => state
  | steps + 1, name, body, value :: rest, state =>
    match (runCommand steps body (state.assign name value)).afterTurn with
    | (state, true) => runTurns steps name body rest state
    | (state, false) => state

/-- Runs the first branch of a selection that fits a text. -/
def runBranches : (steps : Nat) → List Char → List (List Word × Command) → State → State
  | 0, _, _, state => state.exhausted
  | _ + 1, _, [], state => state.answer 0
  | steps + 1, text, (patterns, body) :: rest, state =>
    let (fits, state) := fitsAny steps text patterns state
    if state.jump.isSome then state
    else if fits then runCommand steps body (state.answer 0)
    else runBranches steps text rest state

/-- One of the patterns fits a text; those behind it are not looked at. -/
def fitsAny : (steps : Nat) → List Char → List Word → State → Bool × State
  | 0, _, _, state => (false, state.exhausted)
  | _ + 1, _, [], state => (false, state)
  | steps + 1, text, word :: rest, state =>
    let (pattern, state) := expandPattern (substitute steps) word state
    if state.jump.isSome || patternFits pattern text then (true, state)
    else fitsAny steps text rest state

/-- Runs the stages of a pipe; each reads what the one before it has printed. -/
def runStages : (steps : Nat) → List Command → (input : Option ByteArray) → State → State
  | 0, _, _, state => state.exhausted
  | _ + 1, [], _, state => state
  | steps + 1, stage :: rest, input, state =>
    let inner := match input with
      | none => state
      | some data => state.connectNew 0 (.supply data 0)
    if rest.isEmpty then state.absorb (runCommand steps stage inner)
    else
      let after := runCommand steps stage (inner.connectNew 1 (.buffer .empty))
      runStages steps rest (some ⟨(after.collected 1).toArray⟩) (state.absorb after)

/-- Runs a simple command: its words are expanded, streams redirected and variables assigned before
it is run. -/
def runSimple : (steps : Nat) → List (String × Word) → List Word → List Redirect → State → State
  | 0, _, _, _, state => state.exhausted
  | steps + 1, assignments, words, redirects, state =>
    let (fields, expanded) := expandWords (substitute steps) words state
    if expanded.jump.isSome then expanded
    else
      let isSpecial := specialNames.contains (fields.headD "")
      match expanded.redirectAll (substitute steps) redirects with
      | (opened, false) =>
        { opened with
          streams := state.streams
          jump := if isSpecial then opened.jump.or (some .abort) else opened.jump }
      | (opened, true) =>
        let keeps := fields.isEmpty || isSpecial
        let assigned := assignAll steps keeps assignments opened
        let after : State := match assigned.jump, fields with
          | some _, _ => assigned
          | none, [] => assigned.answer assigned.substituted
          | none, name :: args => runNamed steps isSpecial name args assigned
        let after := { after with streams := state.streams }
        if keeps || assignments.isEmpty then after else { after with vars := opened.vars }

/-- Assigns variables, for good where `keeps` holds, else for a program that sees them. -/
def assignAll : (steps : Nat) → (keeps : Bool) → List (String × Word) → State → State
  | 0, _, _, state => state.exhausted
  | _ + 1, _, [], state => state
  | steps + 1, keeps, (name, word) :: rest, state =>
    let (value, state) := expandText (substitute steps) word state
    if state.jump.isSome then state
    else
      assignAll steps keeps rest
        (if keeps then state.assign name value else state.assignExported name value)

/-- Runs a command by its name.  A special command ends the script when it fails. -/
def runNamed : (steps : Nat) → (isSpecial : Bool) → String → List String → State → State
  | 0, _, _, _, state => state.exhausted
  | steps + 1, isSpecial, name, args, state =>
    match state.functions.lookup name, builtin? name with
    | some body, _ =>
      let after := runCommand steps body { state with arguments := args, loops := 0 }
      { after with
        arguments := state.arguments
        loops := state.loops
        jump := match after.jump with
          | some .leave => none
          | jump => jump }
    | none, some run =>
      let after := { run { state with command := some name } args with command := state.command }
      match after.jump, isSpecial with
      | some .abort, false => { after with jump := none }
      | _, _ => after
    | none, none =>
      match startInScript state name args with
      | .error (status, fault) =>
        (state.warn (name ++ ": " ++ startFaultText fault)).answer status
      | .ok start => state.absorb (runStart steps start { state with process := state.process + 1 })

/-- Runs a program, which starts with the files, the channels and the variables of a state. -/
def runStart : (steps : Nat) → Start → State → State
  | 0, _, state => state.exhausted
  | steps + 1, start, state =>
    let fresh : State :=
      { tree := state.tree, name := start.name, channels := state.channels
        streams := state.streams, process := state.process
        vars := state.vars.filter (·.2.exported) }
    match Utility.programs.lookup start.program with
    | some run => run fresh start.args
    | none =>
      let (state, text) := startShell { fresh with vars := shellVariables fresh } start.args
      if state.jump.isSome then state else runSource steps { rest := text.toList } false state

end

end Cartridge.Shell
