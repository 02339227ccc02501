import Cartridge.Shell.Utility

/-!
# Programs

What a path or a name starts: a program of the system, or a script that names the program that
reads it in its first line.
-/

namespace Cartridge.Shell

open Cartridge.Files (FileTree Fault Location Entry)

/-! ## The system -/

/-- The folders in which the programs of the system lie. -/
def programFolders : List Location := [["usr", "bin"], ["bin"]]

/-- The folders that every system has. -/
def systemFolders : List Location :=
  [["usr"], ["usr", "bin"], ["bin"], ["dev"], ["tmp"]]

/-- The folders and programs that every system has. -/
def systemEntries : List (Location × Entry) :=
  systemFolders.map (·, .folder) ++
    programFolders.flatMap fun folder =>
      Utility.names.map fun name => (folder ++ [name], .file (.bytes .empty) true)

/-- The tree with what every system has, in so far as it has nothing else there. -/
def withSystem (tree : FileTree) : FileTree :=
  { tree with
    entries := tree.entries ++ systemEntries.filter fun entry => (tree.at? entry.1).isNone }

/-- The tree without what every system has and another tree had not; other files in the folders of
the system keep them. -/
def withoutSystem (before tree : FileTree) : FileTree :=
  let isSystem (entry : Location × Entry) : Bool :=
    (before.at? entry.1).isNone && match entry.2 with
      | .folder => systemFolders.contains entry.1
      | .file content _ =>
        content.data.size = 0 && programFolders.contains entry.1.dropLast &&
          Utility.names.contains (entry.1.getLastD "")
  let kept := tree.entries.filter fun entry => !isSystem entry
  let needed := tree.entries.filter fun entry =>
    isSystem entry && kept.any fun other =>
      entry.1.isPrefixOf other.1 && (before.at? other.1).isNone
  { tree with entries := kept ++ needed }

/-! ## What a path starts -/

/-- A program of the system that is started: its name, the name that it was called by, and its
arguments. -/
structure Start where
  program : String
  name : String
  args : List String

/-- A blank in the first line of a script. -/
def isLineBlank (c : Char) : Bool := c == ' ' || c == '\t'

/-- Characters that end the path in the first line of a script. -/
def endsInterpreter (c : Char) : Bool := isLineBlank c || c == Char.ofNat 0

/-- The part of a script that is looked at for the program that reads it; a shorter script is filled
up with zeros. -/
def firstLineSize : Nat := 256

/-- The first line of a script behind its mark.  Where the end of the line is out of sight, the path
in it has to have an end. -/
def firstLine? (text : List Char) : Option (List Char) :=
  let seen := text.take (firstLineSize - 2)
  let seen := seen ++ List.replicate (firstLineSize - 2 - seen.length) (Char.ofNat 0)
  if seen.contains '\n' then some (seen.takeWhile (· != '\n'))
  else
    let seen := seen.dropLast
    if (seen.dropWhile isLineBlank).any endsInterpreter then some seen else none

/-- The program that reads a script, and its argument, as the first line names them. -/
def interpreter? (text : List Char) : Option (String × Option String) :=
  match text with
  | '#' :: '!' :: rest =>
    match firstLine? rest with
    | none => none
    | some line =>
      let line := ((line.reverse.dropWhile isLineBlank).reverse).dropWhile isLineBlank
      let path := line.takeWhile fun c => !endsInterpreter c
      let arg := ((line.drop path.length).dropWhile isLineBlank).takeWhile (· != Char.ofNat 0)
      if line.isEmpty then none
      else some (String.ofList path, if arg.isEmpty then none else some (String.ofList arg))
  | _ => none

/-- The path of the shell. -/
def shellPath : String := "/bin/sh"

/-- Scripts may be read by scripts, to this depth. -/
def interpreterDepth : Nat := 6

/-- What a path starts, through at most `depth` scripts that are read by scripts. -/
def startAt (tree : FileTree) :
    (depth : Nat) → (path name : String) → List String → Except Fault Start
  | 0, _, _, _ => .error .endlessLinks
  | depth + 1, path, name, args => do
    let place ← tree.locate (pathOf path)
    match ← tree.find (pathOf path) with
    | .folder => .error .denied
    | .file _ false => .error .denied
    | .file content true =>
      let program := place.getLastD ""
      if programFolders.contains place.dropLast && Utility.names.contains program &&
          content.data.size = 0 then
        return ⟨program, name, args⟩
      else
        match interpreter? (ofBytes (content.data.data.toList.take firstLineSize)).toList with
        | none => .error .notExecutable
        | some (reader, arg) => startAt tree depth reader reader (arg.toList ++ path :: args)

/-- What a path starts; a file that names no program is read by the shell. -/
def startScriptAt (tree : FileTree) (path name : String) (args : List String) :
    Except Fault Start :=
  match startAt tree interpreterDepth path name args with
  | .error .notExecutable =>
    match tree.find (pathOf path) with
    | .ok (.file content true) =>
      if (interpreter? (ofBytes (content.data.data.toList.take firstLineSize)).toList).isSome then
        .error .notExecutable
      else startAt tree interpreterDepth shellPath shellPath (path :: args)
    | _ => .error .notExecutable
  | result => result

/-- The paths that a name may stand for, by the folders of a search path. -/
def candidates (searchPath name : String) : List String :=
  (Text.splitAt ':' searchPath).map fun folder =>
    if folder == "" then name else folder ++ "/" ++ name

/-- The first of several paths that starts something.  A missing file leads to the next path, and
so does one that may not be run, which is told if there is no other. -/
def firstStart (start : String → Except Fault Start) :
    (denied : Bool) → (last : Fault) → List String → Except Fault Start
  | denied, last, [] => .error (if denied then .denied else last)
  | denied, _, path :: rest =>
    match start path with
    | .ok result => .ok result
    | .error .denied => firstStart start true .denied rest
    | .error .notFound => firstStart start denied .notFound rest
    | .error .notFolder => firstStart start denied .notFolder rest
    | .error fault => .error fault

/-- The longest name that is looked for. -/
def maxProgramName : Nat := 255

/-- What a name starts.  With `scripts` a file that names no program is read by the shell. -/
def startNamed (tree : FileTree) (searchPath : String) (scripts : Bool) (name : String)
    (args : List String) : Except Fault Start :=
  let start (path : String) : Except Fault Start :=
    if scripts then startScriptAt tree path name args
    else startAt tree interpreterDepth path name args
  if name == "" then .error .notFound
  else if name.toList.contains '/' then start name
  else if maxProgramName < name.length then .error .nameTooLong
  else firstStart start false .notFound (candidates searchPath name)

/-- Programs are looked for here where no variable says otherwise. -/
def defaultSearchPath : String := "/bin:/usr/bin"

/-! ## What a name starts in a script -/

/-- A path leads to a file that may be run. -/
def mayRun (tree : FileTree) (path : String) : Bool :=
  match tree.find (pathOf path) with
  | .ok (.file _ executable) => executable
  | _ => false

/-- What a name starts in a script; a fault comes with the status that it leaves. -/
def startInScript (state : State) (name : String) (args : List String) :
    Except (Nat × Fault) Start :=
  let start (path : String) : Except Fault Start := startScriptAt state.tree path name args
  let leaves (fault : Fault) : Nat × Fault :=
    match fault with
    | .notFound | .notFolder | .nameTooLong | .endlessLinks => (127, fault)
    | fault => (126, fault)
  if name.toList.contains '/' then (start name).mapError leaves
  else
    let paths := candidates ((state.value? "PATH").getD "") name
    match paths.dropWhile (!mayRun state.tree ·) with
    | [] =>
      .error (127, if paths.any fun path => state.tree.pathExists (pathOf path) then .denied
        else .notFound)
    | paths => (firstStart start false .notFound paths).mapError leaves

/-- What is said about a program that cannot be started. -/
def startFaultText : Fault → String
  | .notFound | .notFolder => "not found"
  | fault => faultText fault

end Cartridge.Shell
