/-!
# Commands of scripts

A script is made of commands.  A word of a command is made of parts: text that stands for itself,
and parts whose value is put in when the word is used.  A part knows whether it stands between
quotes, which keep its value together and its characters plain.
-/

namespace Cartridge.Shell

/-- What a redirection does with its stream. -/
inductive RedirectKind
  | read
  | write
  | append
  /-- Lets the stream go where another one goes. -/
  | duplicate
  /-- Reads a document that is part of the script, by its number. -/
  | document (number : Nat)

mutual

/-- A part of a word. -/
inductive Part
  | text (s : String) (quoted : Bool)
  | parameter (name : String) (use : Use) (quoted : Bool)
  /-- What a command prints. -/
  | substitution (body : Command) (quoted : Bool)
  | arithmetic (expression : List Part) (quoted : Bool)

/-- What is done with the value of a parameter.  With `orEmpty` an empty value counts as missing. -/
inductive Use
  | value
  | length
  /-- The value, or a word where it is missing. -/
  | default (orEmpty : Bool) (word : List Part)
  /-- A word, where the value is not missing. -/
  | alternative (orEmpty : Bool) (word : List Part)
  /-- The value without what a pattern fits at its start or its end. -/
  | trim (atEnd longest : Bool) (pattern : List Part)
  /-- Something that is no use of a parameter. -/
  | invalid

/-- A redirection of a stream. -/
inductive Redirect
  | mk (stream : Nat) (kind : RedirectKind) (target : List Part)

/-- A command; some commands know their line. -/
inductive Command
  | idle
  | simple (line : Nat) (assignments : List (String × List Part)) (words : List (List Part))
      (redirects : List Redirect)
  | sequence (first second : Command)
  | both (first second : Command)
  | either (first second : Command)
  | negated (body : Command)
  | piped (stages : List Command)
  | conditional (test yes : Command) (no : Option Command)
  /-- Repeats the body as long as the test answers as expected. -/
  | repeated (expected : Bool) (test body : Command)
  /-- Runs the body for each item, or for each argument where no items are given. -/
  | forEach (line : Nat) (name : String) (items : Option (List (List Part))) (body : Command)
  /-- Runs the first branch with a pattern that fits the subject. -/
  | selection (line : Nat) (subject : List Part) (branches : List (List (List Part) × Command))
  /-- Runs the body without changing the state of the script. -/
  | enclosed (body : Command)
  | redirected (line : Nat) (body : Command) (redirects : List Redirect)
  | define (name : String) (body : Command)

end

/-- A word. -/
abbrev Word := List Part

end Cartridge.Shell
