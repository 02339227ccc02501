import Cartridge.Proofs.Compile.FileNames
import Cartridge.Proofs.Compile.SceneArrays

/-!
# Products that overflow

The sources of a project are added one after the other, and a source with a product that its word
cannot hold stops them.  No stage before looks at the factors, so a compiled project can stop there
(`far_actor_overflows`).  It does exactly when a factor is too large and no name was refused first;
what is produced holds the exact products (`overflow_iff_not_factorsFit`).
-/

namespace Cartridge.Compile

open Cartridge.Files (FileTree)
open Cartridge.Script
open Cartridge.Source
open Cartridge.Symbol

section

variable {input : Tables.Input} {reporter : Reporter} {tree : FileTree} {scripted : Scripted}
  {usedTypes : List String} {knownTypes : List Template.SceneType}

/-- The sources stop at the first file with a product that overflows, if all files before it could
be added. -/
lemma Scripted.fileSet_eq_overflow_iff (scripted : Scripted) (project : Project) :
    scripted.fileSet project usedTypes knownTypes = .error .overflow ↔
      ∃ front file back, scripted.files project usedTypes knownTypes = front ++ file :: back ∧
        (front.map File.name).Nodup ∧ (∀ other ∈ front, other.fits = true) ∧
        file.fits = false := by
  rw [fileSet_eq_addFiles, FileSet.addFiles_eq_overflow_iff FileSet.nodup_empty]
  constructor
  · rintro ⟨front, file, back, hfiles, ⟨hfront, hnodup⟩, hfits⟩
    exact ⟨front, file, back, hfiles, hnodup, hfront, hfits⟩
  · rintro ⟨front, file, back, hfiles, hnodup, hfront, hfits⟩
    exact ⟨front, file, back, hfiles, ⟨hfront, hnodup⟩, hfits⟩

section

variable (hok : (compileScripts input reporter tree).result = .ok scripted)

include hok

lemma fileSet_ne_overflow (hfits : FactorsFit input.project scripted.tables) :
    scripted.fileSet input.project usedTypes knownTypes ≠ .error .overflow := by
  rcases fileSet_outcomes hok usedTypes knownTypes with
    ⟨⟨set, hset⟩, -⟩ | ⟨-, hlarge⟩ | ⟨⟨name, hset⟩, -⟩
  · simp [hset]
  · exact absurd hfits hlarge
  · simp [hset]

/-- With names of their own, files stop for a product just when a factor is too large. -/
lemma fileSet_eq_overflow_of_nodup
    (hnodup : ((scripted.files input.project usedTypes knownTypes).map File.name).Nodup) :
    scripted.fileSet input.project usedTypes knownTypes = .error .overflow ↔
      ¬FactorsFit input.project scripted.tables := by
  rcases fileSet_outcomes hok usedTypes knownTypes with
    ⟨⟨set, hset⟩, -, hfits⟩ | ⟨hset, hlarge⟩ | ⟨-, hclash⟩
  · simp [hset, hfits]
  · exact iff_of_true hset hlarge
  · exact absurd hnodup hclash

end

/-- **Products overflow exactly where a factor is too large.**  If the factors of a compiled project
are small enough, no product overflows and the sources hold the exact products; otherwise the
sources are never produced.  They stop for the overflow at the first file that does not fit if no
name is there twice before it, in particular if none is there twice at all. -/
theorem overflow_iff_not_factorsFit
    (hok : (compileScripts input reporter tree).result = .ok scripted) (usedTypes : List String)
    (knownTypes : List Template.SceneType) :
    (FactorsFit input.project scripted.tables → ExactProducts input.project scripted.tables ∧
      scripted.fileSet input.project usedTypes knownTypes ≠ .error .overflow) ∧
    (¬FactorsFit input.project scripted.tables →
      ∃ e, scripted.fileSet input.project usedTypes knownTypes = .error e) ∧
    (((scripted.files input.project usedTypes knownTypes).map File.name).Nodup →
      (scripted.fileSet input.project usedTypes knownTypes = .error .overflow ↔
        ¬FactorsFit input.project scripted.tables)) ∧
    (scripted.fileSet input.project usedTypes knownTypes = .error .overflow ↔
      ∃ front file back,
        scripted.files input.project usedTypes knownTypes = front ++ file :: back ∧
        (front.map File.name).Nodup ∧ (∀ other ∈ front, other.fits = true) ∧
        file.fits = false) := by
  refine ⟨fun hfits => ⟨hfits.exactProducts, fileSet_ne_overflow hok hfits⟩, fun hfits => ?_,
    fileSet_eq_overflow_of_nodup hok, scripted.fileSet_eq_overflow_iff _⟩
  exact (exists_error_iff hok).mpr (.inr hfits)

end

/-- A project whose only actor stands at a place. -/
def standingInput (x : Int32) : Tables.Input :=
  let input := actorInput "Bob"
  { input with
    project := { input.project with scenes := input.project.scenes.map fun scene =>
      { scene with actors := scene.actors.map fun actor => { actor with x := x } } } }

/-- At the last place that fits, the sources hold the exact position. -/
theorem overflow_iff_not_factorsFit_last_place :
    ∃ scripted, (compileScripts (standingInput 134217727) {} {}).result = .ok scripted ∧
      FactorsFit (standingInput 134217727).project scripted.tables ∧
      (∃ entry ∈ scripted.tables.scenes, ∃ actor ∈ entry.actors,
        line "        .x = 2147483632," ∈ actorLines scripted.tables actor.entity none none) ∧
      scripted.fileSet (standingInput 134217727).project [] [] ≠ .error .overflow := by
  obtain ⟨scripted, hok, hcheck⟩ : ∃ scripted,
      (compileScripts (standingInput 134217727) {} {}).result = .ok scripted ∧
        decide (FactorsFit (standingInput 134217727).project scripted.tables ∧
          ∃ entry ∈ scripted.tables.scenes, ∃ actor ∈ entry.actors,
            actor.entity.x = 134217727) = true :=
    exists_ok_of_check (by decide +kernel)
  obtain ⟨hfits, entry, hentry, actor, hactor, hx⟩ := of_decide_eq_true hcheck
  obtain ⟨hexact, hset⟩ := (overflow_iff_not_factorsFit hok [] []).1 hfits
  have hline := (hexact.actors entry hentry actor hactor none none).1
  have htext : integerText (max 0 (134217727 : Int32).toInt * 16) = "2147483632" := by
    decide +kernel
  rw [hx, htext] at hline
  exact ⟨scripted, hok, hfits, ⟨entry, hentry, actor, hactor, hline⟩, hset⟩

/-- One place further, the project compiles up to its scripts and its sources overflow. -/
theorem far_actor_overflows :
    ∃ scripted, (compileScripts (standingInput 134217728) {} {}).result = .ok scripted ∧
      ¬FactorsFit (standingInput 134217728).project scripted.tables ∧
      scripted.fileSet (standingInput 134217728).project [] [] = .error .overflow := by
  obtain ⟨scripted, hok, hcheck⟩ : ∃ scripted,
      (compileScripts (standingInput 134217728) {} {}).result = .ok scripted ∧
        decide ((∀ stem ∈ scripted.scripts.map Compiled.symbol ++
            ownStems (scripted.sourceInput (standingInput 134217728).project [] []),
              ¬(lastWord stem.toList).all Char.isDigit = true ∧ stem ∉ fixedStems) ∧
          ¬FactorsFit (standingInput 134217728).project scripted.tables) = true :=
    exists_ok_of_check (by decide +kernel)
  obtain ⟨hstems, hfits⟩ := of_decide_eq_true hcheck
  have hnodup := nodup_files_of_stems hok hstems
  exact ⟨scripted, hok, hfits, (fileSet_eq_overflow_of_nodup hok hnodup).mpr hfits⟩

end Cartridge.Compile
