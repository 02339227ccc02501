import Cartridge.Proofs.Tables.Scenes

/-!
# Why tables are not built

`RaisesOnly` bounds the errors of a stage: whatever the stage fails with has a property.  It holds
of a sequence of stages when it holds of each of them, so what can stop the building of tables is
found by going through its stages: a file cannot be read or placed, the encoder fails, there is no
font, or a scene has no background (`raisesOnly_build`).
-/

namespace Cartridge.Compile

open Cartridge.Files (FilePath FileTree)

/-! ## The errors of a stage -/

/-- Every error has the property. -/
def RaisesOnly {α : Type} (P : Error → Prop) (result : Except Error α) : Prop :=
  ∀ e, result = .error e → P e

/-- A sequence of stages fails when one of them does. -/
lemma Outcome.result_bind_eq_error {α β : Type} {first : Outcome α} {next : α → Outcome β}
    {e : Error} :
    (first >>= next).result = .error e ↔
      first.result = .error e ∨ ∃ a, first.result = .ok a ∧ (next a).result = .error e := by
  show (first.andThen next).result = .error e ↔ _
  rw [andThen]
  cases first.result <;> simp

lemma Outcome.result_ofExcept {α : Type} (result : Except Error α) :
    (Outcome.ofExcept result).result = result :=
  rfl

namespace RaisesOnly

variable {α β : Type} {P : Error → Prop}

lemma ok (a : α) : RaisesOnly P (.ok a) := by
  rintro e ⟨⟩

lemma error {e : Error} (h : P e) : RaisesOnly P (.error e : Except Error α) := by
  rintro _ ⟨⟩
  exact h

lemma bind {first : Except Error α} {next : α → Except Error β} (hfirst : RaisesOnly P first)
    (hnext : ∀ a, RaisesOnly P (next a)) : RaisesOnly P (first >>= next) := by
  intro e he
  cases first with
  | error e' =>
    cases he
    exact hfirst e rfl
  | ok a => exact hnext a e he

lemma result_bind {first : Outcome α} {next : α → Outcome β} (hfirst : RaisesOnly P first.result)
    (hnext : ∀ a, RaisesOnly P (next a).result) : RaisesOnly P (first >>= next).result := by
  intro e he
  rcases Outcome.result_bind_eq_error.mp he with hfirst' | ⟨a, -, hnext'⟩
  · exact hfirst e hfirst'
  · exact hnext a e hnext'

lemma mapError {ε : Type} {f : ε → Error} (h : ∀ fault, P (f fault)) (result : Except ε α) :
    RaisesOnly P (result.mapError f) := by
  cases result with
  | error fault => exact .error (h fault)
  | ok a => exact .ok a

lemma mapM {step : α → Except Error β} (hstep : ∀ a, RaisesOnly P (step a)) (items : List α) :
    RaisesOnly P (items.mapM step) := by
  induction items with
  | nil => exact .ok []
  | cons item rest ih =>
    rw [List.mapM_cons]
    exact (hstep item).bind fun _ => ih.bind fun _ => .ok _

end RaisesOnly

/-! ## The template -/

namespace Template

variable {P : Error → Prop}

lemma raisesOnly_file? (hio : ∀ context cause, P (.io context cause)) (template : Template)
    (name : String) : RaisesOnly P (template.file? name) := by
  have hcontents : RaisesOnly P template.contents := by
    cases template with
    | unreadable cause => exact .error (hio _ _)
    | files entries => exact .ok entries
  exact hcontents.bind fun _ => .ok _

lemma raisesOnly_placeFile (hio : ∀ context cause, P (.io context cause)) (tree : FileTree)
    (path : FilePath) (data : ByteArray) : RaisesOnly P (placeFile tree path data) := by
  have hfault : ∀ action path fault, P (.ofFault action path fault) := fun _ _ _ => hio _ _
  rw [placeFile]
  cases path.parent? with
  | none => exact .mapError (hfault "write" path) _
  | some parent =>
    exact (RaisesOnly.mapError (hfault "create" parent) _).bind fun _ =>
      .mapError (hfault "write" path) _

lemma raisesOnly_ensureAsset (hio : ∀ context cause, P (.io context cause)) (template : Template)
    (tree : FileTree) (root : FilePath) (relative : String) :
    RaisesOnly P (template.ensureAsset tree root relative).result := by
  have hfile := raisesOnly_file? hio template relative
  rw [ensureAsset]
  split_ifs
  · exact .ok _
  · cases hdata : template.file? relative with
    | error e => exact .error (hfile e hdata)
    | ok found =>
      cases found with
      | none => exact .ok _
      | some data =>
        have hplace := raisesOnly_placeFile hio tree (root.join relative) data
        dsimp only
        cases hplaced : placeFile tree (root.join relative) data with
        | error e => exact .error (hplace e hplaced)
        | ok tree => exact .ok _

lemma raisesOnly_sceneTypes (hio : ∀ context cause, P (.io context cause))
    (hdata : ∀ cause, P (.unreadableProject cause)) (template : Template) :
    RaisesOnly P template.sceneTypes := by
  rw [sceneTypes]
  refine (raisesOnly_file? hio template _).bind fun found => ?_
  cases found with
  | none => exact .ok []
  | some data =>
    dsimp only
    split
    · exact .ok _
    · exact .error (hdata [])

end Template

end Cartridge.Compile

namespace Cartridge.Tables

open Cartridge.Compile
open Cartridge.Files (FilePath FileTree)
open Cartridge.Project
open Cartridge.Symbol (Allocator)
open Cartridge.Tile (Encoder PictureDecoder fileEncoder)

/-! ## Encoding -/

/-- The encoder fails with an error for some asset. -/
inductive Raises (encoder : Encoder) (e : Error) : Prop
  | background {mode background common} (h : encoder.background mode background common = .error e)
  | sprite {sheet} (h : encoder.sprite sheet = .error e)
  | tiles {path} (h : encoder.tiles path = .error e)
  | audio {path} (h : encoder.audio path = .error e)

/-- The encoder that reads files fails for what a file holds or for what a fault says, and for
nothing else. -/
lemma Raises.of_fileEncoder {decode : PictureDecoder} {tree : FileTree} {root : FilePath}
    {e : Error} (h : Raises (fileEncoder decode tree root) e) :
    (∃ asset cause, e = .encoding asset cause) ∨ ∃ context cause, e = .io context cause := by
  have hload : ∀ path, RaisesOnly (fun e => (∃ asset cause, e = .encoding asset cause) ∨
      ∃ context cause, e = .io context cause) (decode.load tree path) :=
    fun path => .mapError (fun cause => .inl ⟨path.text, cause, rfl⟩) _
  cases h with
  | @background _ _ common h =>
    refine (hload _).bind (fun picture => ?_) e h
    cases common with
    | none => exact .ok _
    | some tileset => exact (hload _).bind fun _ => .ok _
  | sprite h => exact (hload _).bind (fun _ => .ok _) e h
  | tiles h => exact (hload _).bind (fun _ => .ok _) e h
  | @audio path h =>
    simp only [fileEncoder] at h
    cases hread : tree.read path with
    | ok data =>
      rw [hread] at h
      cases h
    | error fault =>
      rw [hread] at h
      cases h
      exact .inr ⟨_, _, rfl⟩

lemma raisesOnly_encodeAssets {encoder : Encoder} {folder : String} {root : FilePath}
    {encode : FilePath → Except Error (List UInt8)}
    (hencode : ∀ path, RaisesOnly (Raises encoder) (encode path)) (named : List (Asset × String)) :
    RaisesOnly (Raises encoder) (encodeAssets folder root encode named) :=
  .mapM (fun _ => (hencode _).bind fun _ => .ok _) named

/-- Nothing but the encoder fails while assets are encoded. -/
lemma raisesOnly_encodeAll (project : Project) (root : FilePath) (encoder : Encoder) (names : Names)
    (frame cursor : FilePath) :
    RaisesOnly (Raises encoder) (encodeAll project root encoder names frame cursor) := by
  have htiles : ∀ path, RaisesOnly (Raises encoder) (encoder.tiles path) := fun _ _ he => .tiles he
  have haudio : ∀ path, RaisesOnly (Raises encoder) (encoder.audio path) := fun _ _ he => .audio he
  have hbackgrounds : RaisesOnly (Raises encoder)
      (encodeBackgrounds encoder project.settings.colorMode names.backgrounds) :=
    .mapM (fun _ _ he => .background he) _
  have hsprites : RaisesOnly (Raises encoder) (encodeSprites encoder names.sprites) :=
    .mapM (fun _ _ he => .sprite he) _
  rw [encodeAll]
  refine hbackgrounds.bind fun _ => hsprites.bind fun _ => ?_
  refine (raisesOnly_encodeAssets htiles _).bind fun _ => ?_
  refine (raisesOnly_encodeAssets htiles _).bind fun _ => ?_
  refine (raisesOnly_encodeAssets htiles _).bind fun _ => ?_
  refine (raisesOnly_encodeAssets htiles _).bind fun _ => ?_
  refine (raisesOnly_encodeAssets haudio _).bind fun _ => ?_
  refine (raisesOnly_encodeAssets haudio _).bind fun _ => ?_
  exact (htiles frame).bind fun _ => (htiles cursor).bind fun _ => .ok _

/-! ## Building -/

/-- What can stop the building of tables. -/
inductive Obstacle (input : Input) : Error → Prop
  | io (context cause) : Obstacle input (.io context cause)
  | missingFonts : Obstacle input .missingFonts
  | encoder {tree e} (h : Raises (input.encoder tree) e) : Obstacle input e
  | missingBackground (scene) : Obstacle input (.missingBackground scene)

variable {input : Input}

lemma raisesOnly_ensureAsset (template : Template) (tree : FileTree) (root : FilePath)
    (relative : String) :
    RaisesOnly (Obstacle input) (template.ensureAsset tree root relative).result :=
  Template.raisesOnly_ensureAsset .io template tree root relative

/-- A scene is not built when it has no background; for everything else there are warnings. -/
lemma raisesOnly_buildScene (sceneInput : SceneInput) (index : Nat) (scene : Scene)
    (a : Allocator) :
    RaisesOnly (Obstacle input) (buildScene sceneInput index scene a).result := by
  cases hplace : sceneInput.backgrounds.placeOf? scene with
  | none =>
    rw [buildScene_of_placeOf?_eq_none index a hplace]
    exact .error (.missingBackground _)
  | some place =>
    obtain ⟨_, _, hrun, -⟩ := buildScene_of_placeOf?_eq_some index a hplace
    rw [hrun]
    exact .ok _

lemma raisesOnly_buildScenes (sceneInput : SceneInput) (index : Nat) (scenes : List Scene)
    (a : Allocator) :
    RaisesOnly (Obstacle input) (buildScenes sceneInput index scenes a).result := by
  induction scenes generalizing index a with
  | nil => exact .ok _
  | cons scene rest ih =>
    rw [buildScenes]
    exact (raisesOnly_buildScene sceneInput index scene a).result_bind fun _ =>
      (ih _ _).result_bind fun _ => .ok _

lemma raisesOnly_requireFonts (usage : Usage) (tree : FileTree) :
    RaisesOnly (Obstacle input) (requireFonts input usage tree).result := by
  rw [requireFonts]
  split_ifs
  · exact (raisesOnly_ensureAsset _ _ _ _).result_bind fun _ =>
      (raisesOnly_ensureAsset _ _ _ _).result_bind fun _ => .error .missingFonts
  · exact .ok tree

/-- Tables are built unless one of four things goes wrong. -/
lemma raisesOnly_build (tree : FileTree) (a : Allocator) :
    RaisesOnly (Obstacle input) (build input tree a).result := by
  rw [build]
  refine (raisesOnly_requireFonts _ tree).result_bind fun _ => ?_
  refine (raisesOnly_ensureAsset _ _ _ _).result_bind fun _ => ?_
  refine (raisesOnly_ensureAsset _ _ _ _).result_bind fun _ => ?_
  refine RaisesOnly.result_bind (fun e he => .encoder (raisesOnly_encodeAll _ _ _ _ _ _ e he)) ?_
  intro encoded
  exact (raisesOnly_buildScenes _ _ _ _).result_bind fun _ => .ok _

end Cartridge.Tables
