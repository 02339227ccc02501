import Cartridge.Build.Error

/-!
# Cancellation and running processes

A build has a flag that cancels it, and knows the processes it has started.  Cancelling signals
every one of them with all its descendants, the deepest first.
-/

namespace Cartridge.Build

/-- The ids of running processes, in order. -/
structure Registry where
  live : List Nat := []

namespace Registry

/-- Puts an id in its place, once. -/
def insertId (id : Nat) : List Nat → List Nat
  | [] => [id]
  | other :: rest =>
    if id < other then id :: other :: rest
    else if id = other then other :: rest
    else other :: insertId id rest

/-- Adds a running process. -/
def register (registry : Registry) (id : Nat) : Registry :=
  ⟨insertId id registry.live⟩

/-- Forgets a process that has ended. -/
def unregister (registry : Registry) (id : Nat) : Registry :=
  ⟨registry.live.filter (· ≠ id)⟩

end Registry

/-! ## Process trees -/

/-- The processes of a system, each with its parent. -/
abbrev ProcessTable := List (Nat × Nat)

/-- The processes below a level of parents that have not been found yet. -/
def newChildren (table : ProcessTable) (root : Nat) (level found : List Nat) : List Nat :=
  level.foldl (fun fresh parent =>
    table.foldl (fun fresh entry =>
      if entry.2 = parent ∧ entry.1 ≠ root ∧ !(found ++ fresh).contains entry.1 then
        fresh ++ [entry.1]
      else fresh) fresh) []

/-- The processes below a root, level by level. -/
def descendantsFrom (table : ProcessTable) (root : Nat) :
    (levels : Nat) → (level found : List Nat) → List Nat
  | 0, _, found => found
  | levels + 1, level, found =>
    let fresh := newChildren table root level found
    if fresh.isEmpty then found else descendantsFrom table root levels fresh (found ++ fresh)

/-- The descendants of a process.  Every level but the last has a process of its own, so the size
of the table bounds their number. -/
def descendants (table : ProcessTable) (root : Nat) : List Nat :=
  descendantsFrom table root (table.length + 1) [root] []

/-- The largest id that a process can have. -/
def maxProcessId : Nat := Nat.pow 2 31 - 1

/-- A signal reaches the process. -/
def canSignal (table : ProcessTable) (id : Nat) : Bool :=
  id ≤ maxProcessId && (table.lookup id).isSome

/-- Signals a process with its descendants; answers how many signals arrived. -/
def terminateTree (table : ProcessTable) (root : Nat) : Nat :=
  (((descendants table root).reverse ++ [root]).filter (canSignal table)).length

/-- Signals all running processes with their descendants. -/
def Registry.terminateAll (registry : Registry) (table : ProcessTable) : Nat :=
  (registry.live.map (terminateTree table)).foldl (· + ·) 0

/-! ## Context of a build -/

/-- The flag and the processes of a build. -/
structure Context where
  isCancelled : Bool := false
  processes : Registry := {}

namespace Context

/-- Fails when the build was cancelled. -/
def check (context : Context) : Except Error Unit :=
  if context.isCancelled then .error .cancelled else .ok ()

/-- Cancels a build; answers how many signals arrived. -/
def cancel (context : Context) (table : ProcessTable) : Nat × Context :=
  (context.processes.terminateAll table, { context with isCancelled := true })

end Context

end Cartridge.Build
