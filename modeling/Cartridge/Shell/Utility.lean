import Cartridge.Shell.Builtin
import Cartridge.Text.Pieces

/-!
# Programs of the system

The programs that scripts of tools call.  A program is a function on the state of a script of its
own: it reads the streams and files of the state, writes to them, and leaves its status.
-/

namespace Cartridge.Shell

open Cartridge.Files (FileTree Fault)

/-- A program of the system, called with arguments. -/
abbrev Utility := State → List String → State

/-- What is said about a fault. -/
def faultText : Fault → String
  | .notFound => "No such file or directory"
  | .denied => "Permission denied"
  | .notExecutable => "Exec format error"
  | .alreadyExists => "File exists"
  | .notFolder => "Not a directory"
  | .isFolder => "Is a directory"
  | .notEmpty => "Directory not empty"
  | .invalid => "Invalid argument"
  | .nameTooLong => "File name too long"
  | .badStream => "Bad file descriptor"
  | .endlessLinks => "Too many levels of symbolic links"
  | fault => fault.message

/-- A text between quotes. -/
def quotedText (s : String) : String :=
  "'" ++ s ++ "'"

/-- Prints a message that names the program. -/
def State.tell (state : State) (text : String) : State :=
  state.complain (state.name ++ ": " ++ text ++ "\n")

/-- Ends a program that was called in a wrong way. -/
def State.misused (state : State) (text : String) : State :=
  ((state.tell text).complain
    ("Try '" ++ state.name ++ " --help' for more information.\n")).answer 1

namespace Utility

/-- Runs a program with the letters of its options; a wrong letter ends it. -/
def withOptions (letters : String) (run : List Char → Utility) : Utility := fun state args =>
  let isOption (arg : String) : Bool := 1 < arg.length && arg.toList.head? == some '-'
  let options := (args.filter isOption).flatMap fun arg => arg.toList.drop 1
  match options.find? fun c => !letters.toList.contains c with
  | some c => state.misused ("invalid option -- '" ++ String.singleton c ++ "'")
  | none => run options state (args.filter fun arg => !isOption arg)

/-- The bytes of an operand: a file, or for a dash the input. -/
def readOperand (state : State) (operand : String) : Except Fault (List UInt8 × State) :=
  if operand == "-" then state.readAll 0
  else (state.tree.read (pathOf operand)).map fun data => (data.data.toList, state)

/-- Does something for each operand; the status tells whether all went well. -/
def forOperands (state : State) (operands : List String) (step : State → String → State × Bool) :
    State :=
  if operands.isEmpty then state.misused "missing operand"
  else
    let (state, ok) := operands.foldl (fun (acc : State × Bool) operand =>
      let (state, ok) := step acc.1 operand
      (state, acc.2 && ok)) (state, true)
    state.answerIf ok

/-- Applies a change of the files; a fault is told behind a description. -/
def applyChange (state : State) (description : String) (change : FileTree → Except Fault FileTree) :
    State × Bool :=
  match change state.tree with
  | .ok tree => ({ state with tree := tree }, true)
  | .error fault => (state.tell (description ++ ": " ++ faultText fault), false)

/-- Prints files one after the other. -/
def concatenate : Utility :=
  withOptions "u" fun _ state operands =>
    forOperands state (if operands.isEmpty then ["-"] else operands) fun state operand =>
      match readOperand state operand with
      | .ok (bytes, state) => (state.emit 1 bytes, true)
      | .error fault => (state.tell (operand ++ ": " ++ faultText fault), false)

/-- Makes folders, with those around them where that is asked for. -/
def makeFolder : Utility :=
  withOptions "p" fun options state operands =>
    forOperands state operands fun state operand =>
      applyChange state ("cannot create directory " ++ quotedText operand) fun tree =>
        if options.contains 'p' then (tree.createFolders (pathOf operand)).result
        else tree.createFolder (pathOf operand)

/-- Makes files that are missing. -/
def touch : Utility :=
  withOptions "" fun _ state operands =>
    forOperands state operands fun state operand =>
      if state.tree.pathExists (pathOf operand) then (state, true)
      else applyChange state ("cannot touch " ++ quotedText operand)
        (·.write (pathOf operand) .empty)

/-- Removes files, and folders where that is asked for. -/
def remove : Utility :=
  withOptions "rRf" fun options state operands =>
    let recursive := options.contains 'r' || options.contains 'R'
    forOperands state operands fun state operand =>
      let path := pathOf operand
      if options.contains 'f' && !state.tree.pathExists path then (state, true)
      else applyChange state ("cannot remove " ++ quotedText operand) fun tree =>
        if recursive && tree.isFolder path then (tree.removeFolder path).result
        else tree.removeFile path

/-- Copies or moves files to a file or into a folder. -/
def transfer (action : String) (step : String → String → FileTree → Except Fault FileTree) :
    Utility :=
  withOptions "fp" fun _ state operands =>
    match operands.reverse with
    | target :: source :: others =>
      forOperands state (source :: others).reverse fun state source =>
        let target := if state.tree.isFolder (pathOf target) then
          target ++ "/" ++ ((pathOf source).fileName?.getD "") else target
        if !state.tree.pathExists (pathOf source) then
          (state.tell ("cannot stat " ++ quotedText source ++ ": " ++ faultText .notFound), false)
        else applyChange state (action ++ quotedText target) (step source target)
    | _ => state.misused "missing file operand"

/-- Copies files. -/
def copy : Utility :=
  transfer "cannot create regular file " fun source target tree =>
    (tree.copy (pathOf source) (pathOf target)).map (·.2)

/-- Moves files. -/
def move : Utility :=
  transfer "cannot move to " fun source target tree =>
    tree.rename (pathOf source) (pathOf target)

/-- Counts the lines, the words or the bytes of the input or of a file. -/
def count : Utility :=
  withOptions "lwc" fun options state operands =>
    let name := (operands.head?.map (" " ++ ·)).getD ""
    match readOperand state (operands.headD "-") with
    | .error fault => (state.tell (operands.headD "-" ++ ": " ++ faultText fault)).answer 1
    | .ok (bytes, state) =>
      let words := (Text.pieces isBlankChar (ofBytes bytes).toList).filter (!·.isEmpty)
      let counts := [('l', bytes.count 10), ('w', words.length), ('c', bytes.length)].filter
        fun entry => options.isEmpty || options.contains entry.1
      let width := if counts.length = 1 then 0 else 7
      let shown := counts.map fun entry => ({ width := width } : Place).pad (toString entry.2)
      (state.print (" ".intercalate shown ++ name ++ "\n")).answer 0

/-- The characters of a set, in which a dash stands for a range. -/
def setChars : (room : Nat) → List Char → List Char
  | 0, _ => []
  | _ + 1, [] => []
  | room + 1, text =>
    let (low, rest) := match text with
      | '\\' :: rest => readEscape rest
      | text => (text.headD ' ', text.drop 1)
    match rest with
    | '-' :: high :: rest =>
      ((List.range 256).map Char.ofNat).filter (fun c => low ≤ c && c ≤ high) ++ setChars room rest
    | rest => low :: setChars room rest

/-- Exchanges or deletes characters of the input. -/
def exchange : Utility :=
  withOptions "d" fun options state operands =>
    let set (operand : String) : List Char := setChars (operand.length + 1) operand.toList
    match state.readAll 0, operands, options.contains 'd' with
    | .error fault, _, _ => (state.tell ("read error: " ++ faultText fault)).answer 1
    | .ok (bytes, state), [first], true =>
      let kept := (ofBytes bytes).toList.filter (!(set first).contains ·)
      (state.print (String.ofList kept)).answer 0
    | .ok (bytes, state), [first, second], false =>
      let filled := set second ++ List.replicate (set first).length ((set second).getLastD ' ')
      let table := (set first).zip filled
      let text := (ofBytes bytes).toList.map fun c => (table.lookup c).getD c
      (state.print (String.ofList text)).answer 0
    | _, _, _ => state.misused "missing operand"

/-- Prints the last name of a path, or the path of the folder around it. -/
def pathPart (part : Files.FilePath → String) : Utility := fun state args =>
  match args with
  | [] => state.misused "missing operand"
  | path :: _ => (state.print (ofWritten (part (pathOf path)) ++ "\n")).answer 0

/-- Programs by their names. -/
def programs : List (String × Utility) :=
  [("cat", concatenate), ("cp", copy), ("mkdir", makeFolder), ("mv", move), ("rm", remove),
    ("touch", touch), ("tr", exchange), ("wc", count),
    ("basename", pathPart fun path => path.fileName?.getD path.text),
    ("dirname", pathPart fun path =>
      ((path.parent?.map (·.text)).filter (· ≠ "")).getD ".")] ++
    (["echo", "printf", "test", "true", "false", "pwd"].filterMap fun name =>
      (builtin? name).map fun run => (name, run))

/-- The names of the shell and of programs. -/
def names : List String :=
  "sh" :: programs.map (·.1)

end Utility

end Cartridge.Shell
