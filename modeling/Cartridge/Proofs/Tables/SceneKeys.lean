import Cartridge.Proofs.Json.Order
import Cartridge.Proofs.Tables.ScenePalettes

/-!
# The keys of scenes and projectiles

Scripts are compiled for a scene, and the key of the scene stands for everything in it that shapes
them.  A key is the digest of calls.  The lists among them need no look at their lengths: the texts
of a list end where a call of another kind comes (`texts_append_inj`), and the palettes come last.
So the calls of a scene determine the fields that went into them (`sceneCalls_eq_iff`).

A projectile is known by ten arguments of its launch.  Their values follow each other behind their
names, and each is told apart from the next, up to the kinds of numbers (`argumentCalls_eq_iff`).
-/

namespace Cartridge.Tables

open Cartridge.Digest (Alike Call CollisionFree CountsFit Key keyStream)
open Cartridge.Json
open Cartridge.Project
open Cartridge.Script (Event)

/-! ## Scenes -/

/-- Texts end where a call of another kind comes. -/
lemma texts_append_inj {texts others : List String} {rest rest' : List Call}
    (hrest : ∀ text, rest.head? ≠ some (.text text))
    (hrest' : ∀ text, rest'.head? ≠ some (.text text))
    (h : texts.map Call.text ++ rest = others.map Call.text ++ rest') :
    texts = others ∧ rest = rest' := by
  induction texts generalizing others with
  | nil =>
    cases others with
    | nil => exact ⟨rfl, h⟩
    | cons other others => exact absurd (congrArg List.head? h) (hrest other)
  | cons text texts ih =>
    cases others with
    | nil => exact absurd (congrArg List.head? h).symm (hrest' text)
    | cons other others =>
      obtain ⟨hhead, htail⟩ := List.cons.inj h
      obtain ⟨rfl, hrests⟩ := ih htail
      exact ⟨congrArg (· :: texts) (Call.text.inj hhead), hrests⟩

lemma calls_texts (texts : List String) :
    Digest.calls texts = .tag "seq" :: Digest.countCall texts.length :: texts.map Call.text :=
  congrArg (fun calls => .tag "seq" :: Digest.countCall texts.length :: calls)
    List.map_eq_flatMap.symm

lemma calls_palettes (palettes : List Palette) :
    Digest.calls palettes = .tag "seq" :: Digest.countCall (palettes.map (·.colors)).length ::
      (palettes.map (·.colors)).flatMap fun shades =>
        [.tag "palette"] ++ Digest.calls shades.toList := by
  rw [List.flatMap_map, List.length_map]
  rfl

/-- What is digested of automatic palettes. -/
def autoCalls : Option (List Palette) → List Call
  | some palettes => .tag "auto" :: Digest.calls palettes
  | none => [.none]

lemma autoCalls_eq_iff {auto other : Option (List Palette)} :
    autoCalls auto = autoCalls other ↔
      auto.map (·.map (·.colors)) = other.map (·.map (·.colors)) := by
  cases auto with
  | none => cases other <;> simp [autoCalls]
  | some palettes =>
    cases other with
    | none => simp [autoCalls]
    | some others =>
      simp only [autoCalls, calls_palettes, Option.map_some, Option.some.injEq,
        List.cons.injEq, true_and]
      refine ⟨fun h => flatMap_calls_inj _ h.2, fun h => ?_⟩
      rw [h]
      exact ⟨rfl, rfl⟩

lemma sceneCalls_eq (keys : List Key) (scene : Scene) (auto : Option (List Palette)) :
    sceneCalls keys scene auto =
      .tag "projectiles" :: Digest.countCall keys.length :: ((keys.map (·.text)).map Call.text ++
        .flag (!scene.parallax) :: .text scene.type :: .tag "seq" ::
        Digest.countCall scene.paletteIds.length :: (scene.paletteIds.map Call.text ++
        .tag "seq" :: Digest.countCall scene.spritePaletteIds.length ::
        (scene.spritePaletteIds.map Call.text ++ autoCalls auto))) := by
  cases auto <;>
    simp only [sceneCalls, autoCalls, calls_texts, List.map_map, List.append_assoc,
      List.cons_append, List.nil_append] <;> rfl

/-- The calls of a scene are what its scripts depend on. -/
lemma sceneCalls_eq_iff {keys keys' : List Key} {scene scene' : Scene}
    {auto auto' : Option (List Palette)} :
    sceneCalls keys scene auto = sceneCalls keys' scene' auto' ↔
      keys = keys' ∧ scene.parallax = scene'.parallax ∧ scene.type = scene'.type ∧
      scene.paletteIds = scene'.paletteIds ∧ scene.spritePaletteIds = scene'.spritePaletteIds ∧
      auto.map (·.map (·.colors)) = auto'.map (·.map (·.colors)) := by
  have hauto : ∀ (other : Option (List Palette)) (text : String),
      (autoCalls other).head? ≠ some (.text text) := by
    intro other text
    cases other <;> simp [autoCalls]
  rw [sceneCalls_eq, sceneCalls_eq]
  constructor
  · intro h
    obtain ⟨hkeys, h⟩ := texts_append_inj (by simp) (by simp) (List.cons.inj (List.cons.inj h).2).2
    simp only [List.cons.injEq, Call.flag.injEq, Call.text.injEq, true_and] at h
    obtain ⟨hparallax, htype, -, h⟩ := h
    obtain ⟨hpalettes, h⟩ := texts_append_inj (by simp) (by simp) h
    obtain ⟨hsprites, h⟩ := texts_append_inj (hauto auto) (hauto auto')
      (List.cons.inj (List.cons.inj h).2).2
    exact ⟨List.map_injective_iff.mpr Digest.Key.text_injective hkeys,
      Bool.not_inj hparallax, htype, hpalettes, hsprites, autoCalls_eq_iff.mp h⟩
  · rintro ⟨rfl, hparallax, htype, hpalettes, hsprites, h⟩
    rw [hparallax, htype, hpalettes, hsprites, autoCalls_eq_iff.mpr h]

/-! ## Projectiles -/

/-- An argument of a launch; a missing one counts as null. -/
def argument (args : Fields) (name : String) : Value :=
  (Fields.get? args name).getD .null

/-- Launches agree on the fields of a projectile, up to the kinds of numbers. -/
def SameLaunch (args args' : Fields) : Prop :=
  ∀ name ∈ projectileFields, Alike (argument args name) (argument args' name)

/-- Other arguments do not make another projectile. -/
lemma sameLaunch_cons {name : String} (h : name ∉ projectileFields) (value : Value)
    (args : Fields) : SameLaunch ((name, value) :: args) args := by
  intro field hfield
  have hne : name ≠ field := fun heq => h (heq ▸ hfield)
  rw [argument, Fields.get?_cons_of_ne hne]
  exact .refl _

lemma argumentCalls_eq_iff {args args' : Fields} {names : List String}
    (hargs : ∀ name ∈ names, CountsFit (argument args name))
    (hargs' : ∀ name ∈ names, CountsFit (argument args' name)) :
    ((names.flatMap fun name => Call.text name :: Digest.calls (argument args name)) =
        names.flatMap fun name => Call.text name :: Digest.calls (argument args' name)) ↔
      ∀ name ∈ names, Alike (argument args name) (argument args' name) := by
  induction names with
  | nil => simp
  | cons name names ih =>
    rw [List.forall_mem_cons] at hargs hargs' ⊢
    rw [List.flatMap_cons, List.flatMap_cons, ← ih hargs.2 hargs'.2]
    constructor
    · intro h
      exact Digest.valueCalls_append_inj _ _ _ _ hargs.1 hargs'.1 (List.cons.inj h).2
    · rintro ⟨halike, h⟩
      rw [h]
      exact congrArg (Call.text name :: · ++ _) halike.calls_eq

/-- In a short message, the arguments have few entries. -/
lemma countsFit_argument {args : Fields}
    (h : (keyStream "projectile" (projectileCalls args)).length < 2 ^ 61) :
    ∀ name ∈ projectileFields, CountsFit (argument args name) := by
  intro name hname
  have hcalls := Digest.length_le_length_stream (.tag "projectile" :: projectileCalls args)
  have hpart : (Call.text name :: Digest.calls (argument args name)).length ≤
      (projectileCalls args).length := by
    rw [projectileCalls, List.flatMap_def]
    exact (List.sublist_flatten_of_mem
      (List.mem_map_of_mem (f := fun name => Call.text name :: Digest.calls (argument args name))
        hname)).length_le
  rw [keyStream] at h
  rw [List.length_cons] at hcalls hpart
  exact Digest.countsFit_of_length _ (show (Digest.calls (argument args name)).length < _ by omega)

lemma projectileKey_eq_iff {IsMessage : List UInt8 → Prop} (hdigest : CollisionFree IsMessage)
    {args args' : Fields} (hargs : IsMessage (keyStream "projectile" (projectileCalls args)))
    (hargs' : IsMessage (keyStream "projectile" (projectileCalls args'))) :
    projectileKey args = projectileKey args' ↔ SameLaunch args args' := by
  have hcalls : projectileCalls args = projectileCalls args' ↔ SameLaunch args args' :=
    argumentCalls_eq_iff (countsFit_argument (hdigest.short _ hargs))
      (countsFit_argument (hdigest.short _ hargs'))
  rw [← hcalls]
  exact ⟨hdigest.ofCalls_inj hargs hargs', congrArg (Key.ofCalls "projectile")⟩

/-! ## Keys -/

/-- Without a collision, scenes have one key exactly if everything that shapes their scripts is
the same, and launches have one key exactly if they agree on the fields of a projectile. -/
theorem scene_key_eq_iff_and_launch_key_eq_iff {IsMessage : List UInt8 → Prop}
    (hdigest : CollisionFree IsMessage) :
    (∀ (keys keys' : List Key) (scene scene' : Scene) (auto auto' : Option (List Palette)),
      IsMessage (keyStream "scene" (sceneCalls keys scene auto)) →
      IsMessage (keyStream "scene" (sceneCalls keys' scene' auto')) →
      (sceneKey keys scene auto = sceneKey keys' scene' auto' ↔
        keys = keys' ∧ scene.parallax = scene'.parallax ∧ scene.type = scene'.type ∧
        scene.paletteIds = scene'.paletteIds ∧
        scene.spritePaletteIds = scene'.spritePaletteIds ∧
        auto.map (·.map (·.colors)) = auto'.map (·.map (·.colors)))) ∧
    ∀ (event event' : Event) (launched launched' : Projectile),
      Projectile.ofEvent? event = some launched → Projectile.ofEvent? event' = some launched' →
      IsMessage (keyStream "projectile" (projectileCalls event.args)) →
      IsMessage (keyStream "projectile" (projectileCalls event'.args)) →
      (launched.key = launched'.key ↔ SameLaunch event.args event'.args) := by
  constructor
  · intro keys keys' scene scene' auto auto' hscene hscene'
    rw [← sceneCalls_eq_iff]
    exact ⟨hdigest.ofCalls_inj hscene hscene', congrArg (Key.ofCalls "scene")⟩
  · intro event event' launched launched' hlaunched hlaunched' hevent hevent'
    obtain ⟨sheet, -, rfl⟩ := Option.map_eq_some_iff.mp hlaunched
    obtain ⟨sheet', -, rfl⟩ := Option.map_eq_some_iff.mp hlaunched'
    exact projectileKey_eq_iff hdigest hevent hevent'

/-- A palette of the background is not mistaken for one of the sprites, and the direction of a
launch does not make another projectile. -/
theorem scene_key_of_sprite_palette_and_launch_key_of_direction :
    sceneKey [] { paletteIds := ["p"] } none ≠ sceneKey [] { spritePaletteIds := ["p"] } none ∧
    projectileKey [("direction", .string "up"), ("spriteSheetId", .string "arrow")] =
      projectileKey [("spriteSheetId", .string "arrow")] := by
  constructor
  · have hdigest : CollisionFree (· ∈
        [keyStream "scene" (sceneCalls [] { paletteIds := ["p"] } none),
          keyStream "scene" (sceneCalls [] { spritePaletteIds := ["p"] } none)]) :=
      .of_list (fun _ => id) (by decide +kernel) (by decide +kernel)
    intro h
    have hsame := ((scene_key_eq_iff_and_launch_key_eq_iff hdigest).1 [] [] _ _ none none
      List.mem_cons_self (List.mem_cons_of_mem _ List.mem_cons_self)).mp h
    simp at hsame
  · have hdigest : CollisionFree fun message => message =
        keyStream "projectile" (projectileCalls [("spriteSheetId", .string "arrow")]) :=
      ⟨fun m h => h ▸ by decide +kernel, fun m n hm hn _ => hm.trans hn.symm⟩
    exact ((scene_key_eq_iff_and_launch_key_eq_iff hdigest).2
      { args := [("direction", .string "up"), ("spriteSheetId", .string "arrow")] }
      { args := [("spriteSheetId", .string "arrow")] }
      ⟨_, "arrow", _⟩ ⟨_, "arrow", _⟩ rfl rfl (by decide +kernel) rfl).mpr
      (sameLaunch_cons (by decide) _ _)

end Cartridge.Tables
