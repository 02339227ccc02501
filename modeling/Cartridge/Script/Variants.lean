import Cartridge.Script.Event

/-!
# Scripts with variants

Some entities run one of several scripts, chosen by the value of a parameter.  They are joined
into one script in which each variant is guarded by its value.  A trigger with one script only
runs it without a guard.
-/

namespace Cartridge.Script

/-- Which scripts an entity joins. -/
inductive JoinPolicy
  /-- The enter and leave scripts of a trigger. -/
  | trigger
  /-- The scripts of a scene for each group of things that hit the player. -/
  | playerHit
  /-- The scripts of an actor for interaction and for each group of things that hit it. -/
  | collision
  deriving DecidableEq

/-- A variant that is the only one may stand without a guard. -/
def JoinPolicy.isCollapsible (policy : JoinPolicy) : Bool :=
  policy == .trigger

/-- A script that runs when a parameter has a value. -/
structure Variant where
  parameter : UInt8
  value : UInt8
  script : List Event

/-- The script of a variant behind the test for its parameter. -/
def Variant.guarded (variant : Variant) : Event where
  command := Command.guardParameter
  args := [("parameter", .number (.natural variant.parameter.toNat)),
    ("value", .number (.natural variant.value.toNat))]
  branches := [("true", variant.script)]

/-- Joins variants into one script; empty ones are left out. -/
def joinVariants (policy : JoinPolicy) (variants : List Variant) : List Event :=
  let present := variants.filter fun variant => !variant.script.isEmpty
  match policy.isCollapsible, present with
  | true, [variant] => variant.script
  | _, _ => present.map Variant.guarded

end Cartridge.Script
