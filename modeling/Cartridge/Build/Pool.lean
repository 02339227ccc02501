import Cartridge.Build.Action

/-!
# Running jobs

Jobs are independent.  Before each of them the flag of the build is looked at; the first failure
keeps the rest from being started.  Whatever else happened, a cancelled build answers that it was
cancelled.
-/

namespace Cartridge.Build

/-- What a run of jobs came to: how many were completed, and what stopped it. -/
structure PoolReport where
  completed : Nat := 0
  error : Option Error := none

/-- Runs jobs in turn until one fails or the build is cancelled. -/
def drainJobs (job : α → Action Unit) : List α → World → PoolReport × World
  | [], world => ({}, world)
  | item :: rest, world =>
    if world.context.isCancelled then ({ error := some .cancelled }, world)
    else
      match (job item).run world with
      | (.error e, world) => ({ error := some e }, world)
      | (.ok (), world) =>
        let others := drainJobs job rest world
        ({ others.1 with completed := others.1.completed + 1 }, others.2)

/-- The number of finished jobs, or why they did not all finish; a cancelled build says no more than
that. -/
def PoolReport.result (report : PoolReport) (context : Context) : Except Error Nat :=
  if context.isCancelled then .error .cancelled
  else
    match report.error with
    | some e => .error e
    | none => .ok report.completed

/-- Runs jobs; answers how many were completed.  Without jobs nothing is looked at. -/
def runJobs (job : α → Action Unit) (items : List α) : Action Nat :=
  ExceptT.mk fun world =>
    if items.isEmpty then (.ok 0, world)
    else
      let (report, world) := drainJobs job items world
      (report.result world.context, world)

end Cartridge.Build
