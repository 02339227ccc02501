import Cartridge.Compile.Error

/-!
# Results with warnings

A stage of the compiler answers a result or an error, and in both cases the warnings it gave on
the way, in order.
-/

namespace Cartridge.Compile

/-- A result or an error, with the warnings given before. -/
structure Outcome (α : Type) where
  warnings : List String
  result : Except Error α

namespace Outcome

/-- A result without warnings. -/
def ok (a : α) : Outcome α := ⟨[], .ok a⟩

/-- An error without warnings. -/
def fail (e : Error) : Outcome α := ⟨[], .error e⟩

/-- A warning. -/
def warn (text : String) : Outcome Unit := ⟨[text], .ok ()⟩

/-- A warning where a condition holds. -/
def warnIf (condition : Bool) (text : String) : Outcome Unit :=
  if condition then warn text else ok ()

/-- A result or an error, without warnings. -/
def ofExcept (result : Except Error α) : Outcome α := ⟨[], result⟩

/-- A result with warnings. -/
def withWarnings (warnings : List String) (a : α) : Outcome α := ⟨warnings, .ok a⟩

/-- Continues with a result; warnings add up. -/
def andThen (first : Outcome α) (next : α → Outcome β) : Outcome β :=
  match first.result with
  | .ok a => ⟨first.warnings ++ (next a).warnings, (next a).result⟩
  | .error e => ⟨first.warnings, .error e⟩

instance : Monad Outcome where
  pure := ok
  bind := andThen

end Outcome

end Cartridge.Compile
