import Cartridge.Digest.Key
import Cartridge.Json.Printer
import Cartridge.Platform
import Cartridge.Schema
import Cartridge.Script.Binding
import Cartridge.Script.Listing
import Cartridge.Symbol.Allocator
import Cartridge.Text.Upper

/-!
# From events to code

Events become structured code.  A call of a custom event runs a shared script, which is compiled
once for every custom event and every set of bound arguments.  The shared script has its symbol
before its body is compiled, so a body may call itself.

Calls are followed down to a number of levels; a deeper one is left out with a warning.
-/

namespace Cartridge.Script

open Cartridge.Digest (Key)
open Cartridge.Json
open Cartridge.Project (CustomEvent)
open Cartridge.Symbol (Allocator)

/-- A compiled script. -/
structure Compiled where
  symbol : String
  entityId : String
  slot : String
  lock : Bool
  listing : List Instruction

/-- The lines of a compiled script. -/
def Compiled.lines (script : Compiled) : List String :=
  listingLines script.symbol script.lock script.listing

/-- What events refer to. -/
structure Scope where
  schema : Schema
  library : List CustomEvent
  /-- The symbol of an asset or scene. -/
  symbolFor? : Reference → String → Option String
  /-- The name of each variable of the whole game, by id. -/
  aliases : List (String × String)

/-- What compiling scripts has produced so far. -/
structure Session where
  symbols : Allocator
  /-- The symbol of each shared script, by its key. -/
  shared : List (Key × String) := []
  compiled : List Compiled := []
  warnings : List String := []

namespace Session

/-- Adds a warning. -/
def warn (session : Session) (text : String) : Session :=
  { session with warnings := session.warnings ++ [text] }

/-- Adds a compiled script. -/
def add (session : Session) (script : Compiled) : Session :=
  { session with compiled := session.compiled ++ [script] }

end Session

/-! ## Arguments -/

/-- The name of a variable in a listing; one that is not global is local to its script. -/
def variableName (scope : Scope) (id : String) : String :=
  match Fields.get? scope.aliases id with
  | some name => name
  | none => ".LOCAL_" ++ Text.upper (Symbol.identifier id)

/-- An argument that names a variable rather than giving a value. -/
def isVariableObject (fields : Fields) : Bool :=
  (Fields.get? fields "type").bind Value.string? == some "variable"

/-- An argument as the engine gets it; references are replaced by symbols. -/
def argumentText (scope : Scope) (command name : String) (value : Value) : String :=
  match value with
  | .string text =>
    match scope.schema.kind? command name with
    | some .variable => variableName scope text
    | some kind =>
      match scope.symbolFor? kind text with
      | some symbol => "_" ++ symbol
      | none => text
    | none => text
  | .number n =>
    if scope.schema.kind? command name = some .variable then variableName scope n.text
    else n.text
  | .object fields =>
    match isVariableObject fields, Fields.get? fields "value" with
    | true, some (.string id) => variableName scope id
    | true, some other => variableName scope other.compact
    | _, _ => value.compact
  | other => other.compact

/-- The arguments of a command that the engine gets. -/
def engineArgs (scope : Scope) (command : String) (args : Fields) : List String :=
  (args.filter fun arg => !Text.startsWith "__" arg.1).map fun arg =>
    arg.1 ++ "=" ++ argumentText scope command arg.1 arg.2

/-- A natural number among the arguments. -/
def naturalArg (args : Fields) (name : String) (default : Nat) : Nat :=
  ((Fields.get? args name).bind Value.natural?).getD default

/-- The remark that names the entity a script belongs to. -/
def contextText (event : Event) : String :=
  let part (name : String) := (event.text? name).getD ""
  part "entityType" ++ " " ++ part "entityId" ++ " " ++ part "scriptKey"

/-- The size of sprites that an event asks for. -/
def modeArg (event : Event) : Project.SpriteMode :=
  if event.text? "mode" = some "8x8" then .square else .tall

/-! ## Events -/

/-- Compiles the call of a custom event. -/
abbrev CallHandler := Event → Session → List Code × Session

mutual

/-- Lowers an event; `call` compiles the custom events that are called. -/
def lowerEvent (scope : Scope) (call : CallHandler) : Event → Session → List Code × Session
  | ⟨id, command, args, branches⟩, session =>
    let event : Event := ⟨id, command, args, branches⟩
    if event.isIdle then ([], session)
    else if command = Command.setContext then ([.comment (contextText event)], session)
    else if command = Command.setSpriteMode then ([.spriteMode (modeArg event)], session)
    else if command = Command.guardParameter then
      let body := lowerNamed scope call "true" branches session
      ([.guarded (naturalArg args "parameter" 0) (naturalArg args "value" 0) body.1], body.2)
    else if command = Command.fadeIn then ([.fadeIn (naturalArg args "speed" 1)], session)
    else if command = Command.callCustom then call event session
    else
      let bodies := lowerBranches scope call branches session
      ([.event command (engineArgs scope command args) bodies.1], bodies.2)

/-- Lowers events one after the other. -/
def lowerEvents (scope : Scope) (call : CallHandler) :
    List Event → Session → List Code × Session
  | [], session => ([], session)
  | event :: rest, session =>
    let first := lowerEvent scope call event session
    let others := lowerEvents scope call rest first.2
    (first.1 ++ others.1, others.2)

/-- Lowers the branches of an event. -/
def lowerBranches (scope : Scope) (call : CallHandler) :
    List (String × List Event) → Session → List (String × List Code) × Session
  | [], session => ([], session)
  | (name, body) :: rest, session =>
    let first := lowerEvents scope call body session
    let others := lowerBranches scope call rest first.2
    ((name, first.1) :: others.1, others.2)

/-- Lowers the first branch of a name. -/
def lowerNamed (scope : Scope) (call : CallHandler) (wanted : String) :
    List (String × List Event) → Session → List Code × Session
  | [], session => ([], session)
  | (name, body) :: rest, session =>
    if name = wanted then lowerEvents scope call body session
    else lowerNamed scope call wanted rest session

end

/-! ## Calls -/

/-- The key of a call: calls of one custom event with equal arguments share a script. -/
def sharedKey (custom : CustomEvent) (bound : Fields) : Key :=
  .ofCalls "custom-call" (.text custom.id :: Digest.calls (Value.object bound))

/-- The symbol of the shared script for a call, which is compiled when it is new. -/
def sharedSymbol (lowerBody : List Event → Session → List Code × Session) (custom : CustomEvent)
    (args : Fields) (session : Session) : String × Session :=
  let bound := boundArgs args
  let key := sharedKey custom bound
  match session.shared.lookup key with
  | some symbol => (symbol, session)
  | none =>
    let (symbol, symbols) := session.symbols.allocateShared
    let session := { session with symbols := symbols, shared := (key, symbol) :: session.shared }
    let body := lowerBody (bindEvents bound custom.script) session
    let code := .comment ("Custom script " ++ custom.name) :: body.1
    (symbol, body.2.add
      { symbol := symbol
        entityId := custom.id
        slot := "script"
        lock := false
        listing := sharedListing code })

/-- Compiles a call; `follow` compiles what it calls, or is absent when it is nested too deep. -/
def lowerCall (scope : Scope) (follow : Option (List Event → Session → List Code × Session)) :
    CallHandler := fun event session =>
  match event.text? calleeArgument with
  | none => ([], session)
  | some id =>
    match Project.customEvent? scope.library id, follow with
    | none, _ =>
      ([], session.warn ("Script references a missing custom event '" ++ id ++ "'"))
    | some custom, none =>
      ([], session.warn ("Custom script '" ++ custom.name ++ "' is nested more than " ++
        decimal maxNesting ++ " levels deep and was skipped"))
    | some custom, some lowerBody =>
      let (symbol, session) := sharedSymbol lowerBody custom event.args session
      ([.call symbol], session)

/-- The code of a script whose calls are followed down to `levels` levels. -/
def lowerScript (scope : Scope) : (levels : Nat) → List Event → Session → List Code × Session
  | 0 => lowerEvents scope (lowerCall scope none)
  | levels + 1 => lowerEvents scope (lowerCall scope (some (lowerScript scope levels)))

end Cartridge.Script
