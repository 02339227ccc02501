import Cartridge.Script.Code

/-!
# Listings

A listing is the flat form of a script: instructions, labels and jumps.  Labels are numbers,
drawn in order from a counter that starts anew for every listing.

A guarded part draws the label of its body and that of its end.  An event with branches draws the
label of its end and then one for each branch; the engine jumps to a branch or falls through to
the jump behind them.
-/

namespace Cartridge.Script

open Cartridge.Project (SpriteMode)

/-- A line of a listing. -/
inductive Instruction
  | label (n : Nat)
  | comment (text : String)
  | setSpriteMode (mode : SpriteMode)
  | jumpIfParameter (parameter value target : Nat)
  | jump (target : Nat)
  | fadeIn (speed : Nat)
  | callFar (symbol : String)
  /-- The number of strings that follow. -/
  | event (count : Nat)
  | string (text : String)
  | branch (target : Nat) (name : String)
  | idle
  | stop
  | returnFar
  deriving DecidableEq

/-! ## Laying out code -/

/-- The instructions of an event itself: the command, then its arguments. -/
def eventBlock (command : String) (args : List String) : List Instruction :=
  .comment command :: .event (args.length + 1) :: .string command :: args.map .string

/-- The branch instructions of an event; branch `i` has the label `first + i`. -/
def branchTable (first : Nat) : List (String × List Code) → List Instruction
  | [] => []
  | (name, _) :: rest => .branch first name :: branchTable (first + 1) rest

mutual

/-- The instructions of a step after `drawn` labels, and the number of labels drawn then. -/
def layoutStep (drawn : Nat) : Code → List Instruction × Nat
  | .comment text => ([.comment text], drawn)
  | .spriteMode mode => ([.setSpriteMode mode], drawn)
  | .fadeIn speed => ([.fadeIn speed], drawn)
  | .call symbol => ([.callFar symbol], drawn)
  | .guarded parameter value body =>
    let inner := layout (drawn + 2) body
    ([.jumpIfParameter parameter value (drawn + 1), .jump (drawn + 2), .label (drawn + 1)] ++
      inner.1 ++ [.label (drawn + 2)], inner.2)
  | .event command args [] => (eventBlock command args, drawn)
  | .event command args (branch :: rest) =>
    let bodies := layoutBranches (drawn + 1) (drawn + 2) (drawn + 1 + (rest.length + 1))
      (branch :: rest)
    (eventBlock command args ++ branchTable (drawn + 2) (branch :: rest) ++
      [.jump (drawn + 1)] ++ bodies.1 ++ [.label (drawn + 1)], bodies.2)

/-- The instructions of a script and the number of labels that have been drawn. -/
def layout (drawn : Nat) : List Code → List Instruction × Nat
  | [] => ([], drawn)
  | code :: rest =>
    let first := layoutStep drawn code
    let others := layout first.2 rest
    (first.1 ++ others.1, others.2)

/-- The bodies of branches with labels from `first` on, each followed by a jump to `final`. -/
def layoutBranches (final first drawn : Nat) :
    List (String × List Code) → List Instruction × Nat
  | [] => ([], drawn)
  | (_, body) :: rest =>
    let inner := layout drawn body
    let others := layoutBranches final (first + 1) inner.2 rest
    (.label first :: (inner.1 ++ .jump final :: others.1), others.2)

end

/-- The listing of a script that belongs to an entity. -/
def entityListing (code : List Code) : List Instruction :=
  (layout 0 code).1 ++ [.stop]

/-- The listing of an entity's script that runs over and over. -/
def loopedListing (code : List Code) : List Instruction :=
  .label 1 :: ((layout 1 code).1 ++ [.idle, .jump 1, .stop])

/-- The listing of a script that others call. -/
def sharedListing (code : List Code) : List Instruction :=
  (layout 0 code).1 ++ [.returnFar]

/-! ## Text -/

/-- A character of a text between quotes. -/
def escapeQuoted (c : Char) : List Char :=
  if c == '\\' then ['\\', '\\']
  else if c == '"' then ['\\', '"']
  else if c == '\n' then ['\\', 'n']
  else [c]

/-- A text as it stands between quotes. -/
def escaped (text : String) : String :=
  String.ofList (text.toList.flatMap escapeQuoted)

/-- What an instruction is indented by. -/
def indent : String := "        "

/-- A number in decimal. -/
def decimal (n : Nat) : String :=
  String.ofList (Nat.toDigits 10 n)

/-- The line of an instruction. -/
def Instruction.text : Instruction → String
  | .label n => decimal n ++ "$:"
  | .comment text => indent ++ "; " ++ text
  | .setSpriteMode .square => indent ++ "VM_SET_SPRITE_MODE .MODE_8X8"
  | .setSpriteMode .tall => indent ++ "VM_SET_SPRITE_MODE .MODE_8X16"
  | .jumpIfParameter parameter value target =>
    indent ++ "VM_IF_CONST .EQ, .PARAM" ++ decimal parameter ++ ", " ++ decimal value ++ ", " ++
      decimal target ++ "$, 0"
  | .jump target => indent ++ "VM_JUMP " ++ decimal target ++ "$"
  | .fadeIn speed => indent ++ "VM_FADE_IN " ++ decimal speed
  | .callFar symbol => indent ++ "VM_CALL_FAR ___bank_" ++ symbol ++ ", _" ++ symbol
  | .event count => indent ++ "VM_EVENT " ++ decimal count
  | .string text => indent ++ ".asciz \"" ++ escaped text ++ "\""
  | .branch target name => indent ++ "VM_BRANCH " ++ decimal target ++ "$ ; " ++ name
  | .idle => indent ++ "VM_IDLE"
  | .stop => indent ++ "VM_STOP"
  | .returnFar => indent ++ "VM_RET_FAR"

/-- The lines that a listing starts with. -/
def listingHead (symbol : String) : List String :=
  [".module " ++ symbol, "", ".include \"vm.i\"", ".include \"data/game_globals.i\"", "",
    ".area _CODE_255", "", "___bank_" ++ symbol ++ " = 255", ".globl ___bank_" ++ symbol, "",
    "_" ++ symbol ++ "::"]

/-- The lines of a listing; a locking script keeps others from running. -/
def listingLines (symbol : String) (lock : Bool) (listing : List Instruction) : List String :=
  listingHead symbol ++ (if lock then [indent ++ "VM_LOCK"] else []) ++
    listing.map Instruction.text

end Cartridge.Script
