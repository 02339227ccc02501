/-!
# Case mappings given by runs of code points

Most case mappings shift a run of code points by one offset, either every code point of the run
or every second one.  A few map one character to several; those are listed one by one.
-/

namespace Cartridge.Text

/-- Code points `first, first + step, …, last`, each of which maps to itself plus `offset`. -/
structure CaseRun where
  first : Nat
  last : Nat
  step : Nat
  offset : Int

/-- Runs in increasing order.  Each is given by the distance of its first code point from the last
one before, by the number of its code points, its step and the image of the first. -/
def caseRuns (distances : List (Nat × Nat × Nat × Nat)) : Array CaseRun :=
  (go 0 distances).toArray
where
  go (before : Nat) : List (Nat × Nat × Nat × Nat) → List CaseRun
    | [] => []
    | (distance, count, step, image) :: rest =>
      let first := before + distance
      let last := first + (count - 1) * step
      ⟨first, last, step, image - first⟩ :: go last rest

/-- A case mapping: the runs, and the characters that expand to several. -/
structure CaseTable where
  runs : Array CaseRun
  expansions : Array (Nat × List Nat)

/-- A character belongs to the run. -/
def CaseRun.contains (run : CaseRun) (n : Nat) : Bool :=
  run.first ≤ n && n ≤ run.last && (n - run.first) % run.step == 0

/-- The image of a character: its expansion, or the shifted character, or itself. -/
def CaseTable.apply (table : CaseTable) (c : Char) : List Char :=
  match table.expansions.find? (·.1 == c.toNat) with
  | some (_, first :: rest) => Char.ofNat first :: rest.map Char.ofNat
  | _ =>
    match table.runs.find? (·.contains c.toNat) with
    | some run => [Char.ofNat (Int.ofNat c.toNat + run.offset).toNat]
    | none => [c]

end Cartridge.Text
