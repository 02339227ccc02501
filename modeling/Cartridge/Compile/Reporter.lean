import Cartridge.Compile.Outcome

/-!
# Reporting

A reporter keeps the warnings of a run.  A run that can be interrupted has a flag, and at its
checkpoints it stops when the flag is raised.
-/

namespace Cartridge.Compile

/-- The warnings of a run, and its flag when it can be interrupted. -/
structure Reporter where
  warnings : List String := []
  interrupt : Option Bool := none

namespace Reporter

/-- Records a warning. -/
def warn (reporter : Reporter) (text : String) : Reporter :=
  { reporter with warnings := reporter.warnings ++ [text] }

/-- Sets the flag of the interrupt, if there is one. -/
def raise (reporter : Reporter) (flag : Bool) : Reporter :=
  { reporter with interrupt := reporter.interrupt.map fun _ => flag }

/-- Someone asked the compilation to stop. -/
def isInterrupted (reporter : Reporter) : Bool :=
  reporter.interrupt.getD false

/-- Stops an interrupted compilation. -/
def checkpoint (reporter : Reporter) : Except Error Unit :=
  if reporter.isInterrupted then .error .interrupted else .ok ()

end Reporter

end Cartridge.Compile
