import Cartridge.Project.Basic

/-!
# Binding the arguments of custom events

The body of a custom event names its parameters as `$name$`.  Calling it replaces each such text,
wherever it stands inside an argument, by the value bound at the call.
-/

namespace Cartridge.Script

open Cartridge.Json
open Cartridge.Project (CustomEvent)

/-- The argument that names the custom event of a call. -/
def calleeArgument : String := "customEventId"

/-- The arguments with a name of their own, which a call hands to the body. -/
def isBindable (name : String) : Bool :=
  name ≠ calleeArgument && !Text.startsWith "__" name

/-- The arguments that a call hands to the body. -/
def boundArgs (args : Fields) : Fields :=
  args.filter fun arg => isBindable arg.1

/-- The name inside a placeholder `$name$`. -/
def placeholder? (text : String) : Option String :=
  match text.toList with
  | '$' :: rest =>
    match rest.reverse with
    | '$' :: name => if name.isEmpty then none else some (String.ofList name.reverse)
    | _ => none
  | _ => none

/-- The value of a text: what is bound to the placeholder it is, else the text itself. -/
def bindText (args : Fields) (text : String) : Value :=
  match placeholder? text with
  | none => .string text
  | some name =>
    if name = calleeArgument then .string text
    else (Fields.get? args name).getD (.string text)

mutual

/-- A value with the arguments of a call put in. -/
def bindValue (args : Fields) : Value → Value
  | .string text => bindText args text
  | .array items => .array (bindValues args items)
  | .object fields => .object (bindFields args fields)
  | .null => .null
  | .bool b => .bool b
  | .number n => .number n

/-- Items with the arguments of a call put in. -/
def bindValues (args : Fields) : List Value → List Value
  | [] => []
  | v :: rest => bindValue args v :: bindValues args rest

/-- Fields with the arguments of a call put in. -/
def bindFields (args : Fields) : List (String × Value) → List (String × Value)
  | [] => []
  | (name, v) :: rest => (name, bindValue args v) :: bindFields args rest

end

mutual

/-- An event with the arguments of a call put in, also in its branches. -/
def bindEvent (args : Fields) : Event → Event
  | ⟨id, command, own, branches⟩ =>
    ⟨id, command, bindFields args own, bindBranches args branches⟩

/-- Events with the arguments of a call put in. -/
def bindEvents (args : Fields) : List Event → List Event
  | [] => []
  | e :: rest => bindEvent args e :: bindEvents args rest

/-- Replaces placeholders in named branches. -/
def bindBranches (args : Fields) : List (String × List Event) → List (String × List Event)
  | [] => []
  | (name, body) :: rest => (name, bindEvents args body) :: bindBranches args rest

end

/-- The custom event that a call names. -/
def callee? (library : List CustomEvent) (event : Event) : Option CustomEvent :=
  (event.text? calleeArgument).bind (Project.customEvent? library)

/-- The body that a call runs, its placeholders replaced by all arguments of the call. -/
def calledBody? (library : List CustomEvent) (event : Event) : Option (List Event) :=
  (callee? library event).map fun custom => bindEvents event.args custom.script

end Cartridge.Script
