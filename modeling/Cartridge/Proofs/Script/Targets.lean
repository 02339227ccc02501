import Cartridge.Proofs.Script.Labels
import Cartridge.Proofs.Script.Sharing

/-!
# Jumps stay in their listing

Lines of three kinds name a label to go on from: jumps, jumps on a parameter and branches.  Code
that is laid out after `drawn` labels names only labels that it draws itself, apart from the bodies
of branches, which also name the end of their event (`targets_layoutBranches`).  All labels that
are drawn are placed, so every label that a listing names stands in it (`WellLabelled`).

While a script is lowered, its calls may compile shared scripts.  Each of those has a listing and
a counter of its own (`kept_adds`).
-/

namespace Cartridge.Script

open Machine

/-- The label from which a line may go on. -/
def Instruction.target? : Instruction → Option Nat
  | .jumpIfParameter _ _ target => some target
  | .jump target => some target
  | .branch target _ => some target
  | _ => none

/-- The labels that the lines of a listing name. -/
def targets (listing : List Instruction) : List Nat :=
  listing.filterMap Instruction.target?

/-- Each of the labels from `1` to `drawn` is placed once, no other label is placed, and every label
that is named is placed. -/
structure WellLabelled (drawn : Nat) (listing : List Instruction) : Prop where
  placed_perm : (placed listing).Perm (List.range' 1 drawn)
  targets_subset : targets listing ⊆ placed listing

/-! ## The labels that laid out code names -/

lemma targets_append (first second : List Instruction) :
    targets (first ++ second) = targets first ++ targets second :=
  List.filterMap_append

lemma targets_eventBlock (command : String) (args : List String) :
    targets (eventBlock command args) = [] := by
  simp [targets, eventBlock, Instruction.target?]

lemma mem_targets_branchTable {first target : Nat} {branches : List (String × List Code)}
    (h : target ∈ targets (branchTable first branches)) :
    first ≤ target ∧ target < first + branches.length := by
  induction branches generalizing first with
  | nil => exact absurd h List.not_mem_nil
  | cons branch rest ih =>
    rw [List.length_cons]
    rcases List.mem_cons.mp h with rfl | h
    · omega
    · have hrest := ih h
      omega

mutual

lemma targets_layoutStep (drawn : Nat) : ∀ code, ∀ target ∈ targets (layoutStep drawn code).1,
    drawn < target ∧ target ≤ (layoutStep drawn code).2
  | .comment _, _, h => absurd h List.not_mem_nil
  | .spriteMode _, _, h => absurd h List.not_mem_nil
  | .fadeIn _, _, h => absurd h List.not_mem_nil
  | .call _, _, h => absurd h List.not_mem_nil
  | .guarded parameter value body, target, h => by
    have hle := (draws_layout (drawn + 2) body).le
    have hbody := targets_layout (drawn + 2) body target
    rw [layoutStep] at h ⊢
    simp only [targets_append, List.mem_append] at h
    rcases h with (h | h) | h
    · simp [targets, Instruction.target?] at h
      omega
    · have := hbody h
      omega
    · exact absurd h List.not_mem_nil
  | .event command args [], target, h => by
    rw [layoutStep, targets_eventBlock] at h
    exact absurd h List.not_mem_nil
  | .event command args (branch :: rest), target, h => by
    have hle := (draws_layoutBranches (drawn + 1) (drawn + 2) (drawn + 1 + (rest.length + 1))
      (branch :: rest)).le
    have hbodies := targets_layoutBranches (drawn + 1) (drawn + 2)
      (drawn + 1 + (rest.length + 1)) (branch :: rest) target
    rw [layoutStep] at h ⊢
    simp only [targets_append, targets_eventBlock, List.nil_append, List.mem_append] at h
    rcases h with ((h | h) | h) | h
    · have hbranch := mem_targets_branchTable h
      rw [List.length_cons] at hbranch
      omega
    · rw [List.mem_singleton.mp h]
      omega
    · have := hbodies h
      omega
    · exact absurd h List.not_mem_nil

/-- Code names only labels that it draws. -/
lemma targets_layout (drawn : Nat) : ∀ code, ∀ target ∈ targets (layout drawn code).1,
    drawn < target ∧ target ≤ (layout drawn code).2
  | [], _, h => absurd h List.not_mem_nil
  | code :: rest, target, h => by
    have hfirst := (draws_layoutStep drawn code).le
    have hrest := (draws_layout (layoutStep drawn code).2 rest).le
    rw [layout] at h ⊢
    rcases List.mem_append.mp (targets_append _ _ ▸ h) with h | h
    · have := targets_layoutStep drawn code target h
      omega
    · have := targets_layout _ rest target h
      omega

/-- The bodies of branches name the end of their event besides. -/
lemma targets_layoutBranches (final first drawn : Nat) :
    ∀ branches, ∀ target ∈ targets (layoutBranches final first drawn branches).1,
      target = final ∨
        drawn < target ∧ target ≤ (layoutBranches final first drawn branches).2
  | [], _, h => absurd h List.not_mem_nil
  | (_, body) :: rest, target, h => by
    have hbody := (draws_layout drawn body).le
    have hrest := (draws_layoutBranches final (first + 1) (layout drawn body).2 rest).le
    rw [layoutBranches] at h ⊢
    rcases List.mem_append.mp ((targets_append _ _).symm ▸ h) with h | h
    · have := targets_layout drawn body target h
      omega
    · rcases List.mem_cons.mp h with rfl | h
      · exact .inl rfl
      · have := targets_layoutBranches final (first + 1) _ rest target h
        omega

end

/-! ## Whole listings -/

lemma Draws.mem_placed_iff {drawn n : Nat} {out : List Instruction × Nat} (h : Draws drawn out) :
    n ∈ placed out.1 ↔ drawn < n ∧ n ≤ out.2 := by
  rw [← List.count_pos_iff, h.count n]
  split_ifs with hn <;> simp [hn]

lemma Draws.placed_perm {drawn : Nat} {out : List Instruction × Nat} (h : Draws drawn out) :
    (placed out.1).Perm (List.range' (drawn + 1) (out.2 - drawn)) := by
  rw [List.perm_ext_iff_of_nodup h.nodup List.nodup_range']
  intro n
  have hle := h.le
  rw [h.mem_placed_iff, List.mem_range'_1]
  omega

/-- Laid out code with a last line that neither places nor names a label. -/
lemma wellLabelled_layout (code : List Code) {final : Instruction} (hplaced : placed [final] = [])
    (htargets : targets [final] = []) :
    WellLabelled (layout 0 code).2 ((layout 0 code).1 ++ [final]) where
  placed_perm := by
    rw [placed_append, hplaced, List.append_nil]
    exact (draws_layout 0 code).placed_perm
  targets_subset := by
    rw [targets_append, htargets, placed_append, hplaced, List.append_nil, List.append_nil]
    exact fun target h => (draws_layout 0 code).mem_placed_iff.mpr (targets_layout 0 code target h)

/-- The label of the loop is drawn before the code is laid out, and placed first. -/
lemma wellLabelled_loopedListing (code : List Code) :
    WellLabelled (layout 1 code).2 (loopedListing code) := by
  have hdraws := draws_layout 1 code
  have hplaced : placed (loopedListing code) = 1 :: placed (layout 1 code).1 := by
    simp [loopedListing, placed]
  have htargets : targets (loopedListing code) = targets (layout 1 code).1 ++ [1] := by
    simp [loopedListing, targets, Instruction.target?, List.filterMap_cons]
  constructor
  · have hrange : List.range' 1 (layout 1 code).2 =
        1 :: List.range' 2 ((layout 1 code).2 - 1) := by
      rw [← Nat.sub_add_cancel hdraws.le, List.range'_succ, Nat.add_sub_cancel]
    rw [hplaced, hrange]
    exact hdraws.placed_perm.cons 1
  · rw [hplaced, htargets]
    intro target h
    rcases List.mem_append.mp h with h | h
    · exact List.mem_cons_of_mem _ (hdraws.mem_placed_iff.mpr (targets_layout 1 code target h))
    · exact List.mem_cons.mpr (.inl (List.mem_singleton.mp h))

/-! ## Shared scripts on the way -/

/-- What a later session has compiled besides are shared scripts. -/
def Session.Adds (session later : Session) : Prop :=
  ∀ script ∈ later.compiled,
    script ∈ session.compiled ∨ ∃ code, script.listing = sharedListing code

lemma kept_adds : Kept Session.Adds where
  refl _ _ := .inl
  trans _ _ _ h h' script hscript := (h' script hscript).elim (h script) .inr
  warn _ _ _ := .inl
  enter _ _ _ _ := .inl
  add _ _ _ _ script hscript := by
    refine (List.mem_append.mp hscript).imp_right fun hscript => ?_
    exact ⟨_, congrArg Compiled.listing (List.mem_singleton.mp hscript)⟩

/-- **Labels of listings.**  A script, lowered with any number of levels left and laid out for an
entity, with or without a loop, or as a shared script with its remark in front, places exactly the
labels from `1` to the number its counter has drawn, each once, and every label that it names.  The
same holds of every shared script that is compiled on the way. -/
theorem lowered_listing_wellLabelled (scope : Scope) (levels : Nat) (events : List Event)
    (session : Session) (remark : String) :
    let lowered := lowerScript scope levels events session
    let shared := .comment remark :: lowered.1
    WellLabelled (layout 0 lowered.1).2 (entityListing lowered.1) ∧
      WellLabelled (layout 1 lowered.1).2 (loopedListing lowered.1) ∧
      WellLabelled (layout 0 shared).2 (sharedListing shared) ∧
      ∀ script ∈ lowered.2.compiled, script ∈ session.compiled ∨
        ∃ code, script.listing = sharedListing code ∧
          WellLabelled (layout 0 code).2 script.listing := by
  intro lowered shared
  refine ⟨wellLabelled_layout _ rfl rfl, wellLabelled_loopedListing _,
    wellLabelled_layout _ rfl rfl, fun script hscript => ?_⟩
  refine (kept_adds.lowerScript scope levels events session script hscript).imp_right ?_
  rintro ⟨code, hcode⟩
  exact ⟨code, hcode, hcode ▸ wellLabelled_layout code rfl rfl⟩

end Cartridge.Script
