import Cartridge.Build.Product
import Cartridge.Text.Pieces

/-!
# Command line

A task, the project and the destination.  Options may stand before the task and behind it, each
once at either place; what is said behind the task counts.
-/

namespace Cartridge.Cli

open Cartridge.Build (Product)

/-- What the program is asked to do. -/
inductive Task
  /-- Writes the engine with the compiled data. -/
  | export
  /-- Makes an image. -/
  | image (product : Product)
  /-- Makes a bundle for browsers. -/
  | bundle

/-- The names of tasks. -/
def taskNames : List (String × Task) :=
  [("export", .export), ("make:rom", .image .rom), ("make:pocket", .image .pocket),
    ("make:gba", .image .advance), ("make:web", .bundle)]

/-- What options say. -/
structure Flags where
  verbose : Bool := false
  onlyData : Bool := false
  noCache : Bool := false
  temporary : Option String := none
  cacheFolder : Option String := none
  jobs : Option Nat := none

/-- What the command line asks for. -/
inductive Request
  | version
  | perform (task : Task) (project destination : String) (flags : Flags)

/-- Why a command line is not understood. -/
inductive UsageError
  | unknownArgument (arg : String)
  | missingValue (option : String)
  | invalidValue (value option : String)
  | repeatedOption (option : String)
  | missingArgument (name : String)
  | unknownTask (name : String)

/-- The text of a wrong use of the command line. -/
def UsageError.message : UsageError → String
  | .unknownArgument arg => "unexpected argument '" ++ arg ++ "' found"
  | .missingValue option => "a value is required for '" ++ option ++ "' but none was supplied"
  | .invalidValue value option => "invalid value '" ++ value ++ "' for '" ++ option ++ "'"
  | .repeatedOption option => "the argument '" ++ option ++ "' cannot be used multiple times"
  | .missingArgument name => "the required argument <" ++ name ++ "> was not provided"
  | .unknownTask name => "unrecognized subcommand '" ++ name ++ "'"

/-- An option: its names, and whether a value belongs to it. -/
inductive Switch
  | version
  | verbose
  | onlyData
  | noCache
  | temporary
  | cacheFolder
  | jobs
  deriving DecidableEq

/-- Options by their long names. -/
def longNames : List (String × Switch) :=
  [("version", .version), ("verbose", .verbose), ("only-data", .onlyData),
    ("onlyData", .onlyData), ("no-cache", .noCache), ("tmp-dir", .temporary),
    ("cache-dir", .cacheFolder), ("jobs", .jobs)]

/-- Options by their letters. -/
def shortNames : List (Char × Switch) :=
  [('V', .version), ('v', .verbose), ('d', .onlyData), ('j', .jobs)]

/-- The option has a value. -/
def Switch.takesValue : Switch → Bool
  | .temporary | .cacheFolder | .jobs => true
  | _ => false

/-- The name that errors give an option. -/
def Switch.label : Switch → String
  | .version => "--version"
  | .verbose => "--verbose"
  | .onlyData => "--only-data"
  | .noCache => "--no-cache"
  | .temporary => "--tmp-dir <TMP_DIR>"
  | .cacheFolder => "--cache-dir <CACHE_DIR>"
  | .jobs => "--jobs <JOBS>"

/-- What ends the reading of a command line. -/
inductive Halt
  | version
  | misuse (e : UsageError)

/-- What has been read at one place of a command line. -/
structure Parsed where
  /-- The arguments stand behind the task. -/
  inTask : Bool
  flags : Flags := {}
  given : List Switch := []
  words : List String := []

/-- The number of jobs has to lie below it. -/
def jobsBound : Nat := Nat.pow 2 64

/-- A number in decimal, with or without a plus sign. -/
def count? (text : String) : Option Nat :=
  let digits := match text.toList with
    | '+' :: rest => rest
    | all => all
  let n := digits.foldl (fun n c => n * 10 + (c.toNat - '0'.toNat)) 0
  if !digits.isEmpty && digits.all Char.isDigit && n < jobsBound then some n else none

/-- Sets an option to its value. -/
def Flags.set (flags : Flags) (option : Switch) (value : String) : Except UsageError Flags :=
  match option with
  | .version => .ok flags
  | .verbose => .ok { flags with verbose := true }
  | .onlyData => .ok { flags with onlyData := true }
  | .noCache => .ok { flags with noCache := true }
  | .jobs =>
    match count? value with
    | some n => .ok { flags with jobs := some n }
    | none => .error (.invalidValue value option.label)
  | .temporary =>
    if value == "" then .error (.missingValue option.label)
    else .ok { flags with temporary := some value }
  | .cacheFolder =>
    if value == "" then .error (.missingValue option.label)
    else .ok { flags with cacheFolder := some value }

/-- Sets an option.  The version is asked for before the task only, and at once. -/
def Parsed.set (parsed : Parsed) (option : Switch) (value : String) : Except Halt Parsed :=
  if option = .version then
    .error (if parsed.inTask then .misuse (.unknownArgument option.label) else .version)
  else if parsed.given.contains option then .error (.misuse (.repeatedOption option.label))
  else do
    let flags ← (parsed.flags.set option value).mapError .misuse
    return { parsed with flags := flags, given := option :: parsed.given }

/-- An option that waits for its value. -/
abbrev Pending := Option Switch

/-- Reads a group of letters; the last of them may wait for a value. -/
def readLetters (parsed : Parsed) : List Char → Except Halt (Parsed × Pending)
  | [] => .ok (parsed, none)
  | c :: rest => do
    match shortNames.lookup c with
    | none => .error (.misuse (.unknownArgument ("-" ++ String.singleton c)))
    | some option =>
      if option.takesValue then
        match rest with
        | [] => return (parsed, some option)
        | '=' :: value => return (← parsed.set option (String.ofList value), none)
        | value => return (← parsed.set option (String.ofList value), none)
      else readLetters (← parsed.set option "") rest

/-- Reads a long option, which may hold its value or wait for it. -/
def readLong (parsed : Parsed) (text : List Char) : Except Halt (Parsed × Pending) := do
  let name := text.takeWhile (· != '=')
  match longNames.lookup (String.ofList name), text.drop name.length with
  | none, _ => .error (.misuse (.unknownArgument ("--" ++ String.ofList name)))
  | some option, '=' :: value =>
    if option.takesValue then return (← parsed.set option (String.ofList value), none)
    else .error (.misuse (.unknownArgument (String.ofList text)))
  | some option, _ =>
    if option.takesValue then return (parsed, some option)
    else return (← parsed.set option "", none)

/-- The argument is an option; a dash alone is none. -/
def looksLikeOption (arg : String) : Bool :=
  match arg.toList with
  | '-' :: _ :: _ => true
  | _ => false

/-- Reads arguments at one place: before the task up to its name, behind it up to the end, where two
dashes end the options.  Answers the arguments that are left, too. -/
def readArguments (parsed : Parsed) : List String → Except Halt (Parsed × List String)
  | [] => .ok (parsed, [])
  | arg :: rest => do
    if arg == "--" then
      if parsed.inTask then return ({ parsed with words := parsed.words ++ rest }, [])
      else .error (.misuse (.unknownArgument arg))
    else if !looksLikeOption arg then
      if parsed.inTask then readArguments { parsed with words := parsed.words ++ [arg] } rest
      else return (parsed, arg :: rest)
    else
      let (parsed, pending) ← match arg.toList with
        | '-' :: '-' :: long => readLong parsed long
        | letters => readLetters parsed (letters.drop 1)
      match pending, rest with
      | none, rest => readArguments parsed rest
      | some option, [] => .error (.misuse (.missingValue option.label))
      | some option, value :: rest =>
        if looksLikeOption value then .error (.misuse (.missingValue option.label))
        else readArguments (← parsed.set option value) rest

/-- The request of a task with the words that are no options. -/
def Request.ofWords (task : Task) (flags : Flags) : List String → Except UsageError Request
  | [] => .error (.missingArgument "PROJECT")
  | [_] => .error (.missingArgument "DESTINATION")
  | [project, destination] =>
    if project == "" then .error (.missingValue "<PROJECT>")
    else if destination == "" then .error (.missingValue "<DESTINATION>")
    else .ok (.perform task project destination flags)
  | _ :: _ :: extra :: _ => .error (.unknownArgument extra)

/-- Reads a command line, up to what ends it. -/
def readRequest (args : List String) : Except Halt Request := do
  let (before, rest) ← readArguments { inTask := false } args
  match rest with
  | [] => .error (.misuse (.missingArgument "COMMAND"))
  | name :: rest =>
    match taskNames.lookup name with
    | none => .error (.misuse (.unknownTask name))
    | some task =>
      let (parsed, _) ← readArguments { inTask := true, flags := before.flags } rest
      (Request.ofWords task parsed.flags parsed.words).mapError .misuse

/-- What the arguments of a call ask for. -/
def Request.ofArguments (args : List String) : Except UsageError Request :=
  match readRequest args with
  | .ok request => .ok request
  | .error .version => .ok .version
  | .error (.misuse e) => .error e

end Cartridge.Cli
