import Cartridge.Proofs.Usage.Mentions

/-!
# What a project uses is what is referred to

The used assets of a class are collected from mentions.  Here they are compared with the references
of the project (`RefersTo`), which are said without the walk that collects mentions: an asset of the
class is used exactly when its id is not empty and something refers to it, and it is listed with
exactly the entities that do (`UsedExactly`).

Variables are listed by their ids, each once, in the order in which the walk first comes by them
(`ListsVariables`).  The list has the variables of the whole game among those that are referred to.

The main result, `usage_exact`, holds for every project and every schema.  It covers the classes
whose assets are used only when they are referred to; fonts and music are used by further rules.
-/

namespace Cartridge

open Cartridge.Project
open Cartridge.Script

/-! ## Assets -/

open Classical in
/-- The used assets are those that are referred to, in the order of the project, each with the
entities that refer to it.  `Refers id who` says that `who` refers to `id`. -/
structure UsedExactly {α : Type} (Refers : String → String → Prop) (idOf : α → String)
    (assets : List α) (used : List (Used α)) : Prop where
  assets_eq : used.map (·.asset) =
    assets.filter fun asset => decide (idOf asset ≠ "" ∧ ∃ who, Refers (idOf asset) who)
  mem_referencedBy : ∀ entry ∈ used, ∀ who,
    who ∈ entry.referencedBy ↔ Refers (idOf entry.asset) who
  ordered : ∀ entry ∈ used, entry.referencedBy.Pairwise (· < ·)

section

variable {α : Type} {mentions : List Mention} {kind : Reference} {idOf : α → String}

lemma mem_pickUsed_iff {assets : List α} {entry : Used α} :
    entry ∈ pickUsed mentions kind idOf assets ↔ entry.asset ∈ assets ∧
      entry.referencedBy = Mention.referrers mentions kind (idOf entry.asset) ∧
      entry.referencedBy ≠ [] := by
  rw [pickUsed, List.mem_filterMap]
  constructor
  · rintro ⟨asset, hasset, hentry⟩
    split at hentry
    · cases hentry
    · rename_i hnames
      cases hentry
      exact ⟨hasset, rfl, hnames⟩
  · rintro ⟨hasset, hnames, hne⟩
    refine ⟨entry.asset, hasset, ?_⟩
    split
    · rename_i hnil
      exact absurd (hnames.trans hnil) hne
    · rw [← hnames]

lemma map_asset_pickUsed (assets : List α) :
    (pickUsed mentions kind idOf assets).map (·.asset) =
      assets.filter fun asset => !(Mention.referrers mentions kind (idOf asset)).isEmpty := by
  induction assets with
  | nil => rfl
  | cons asset rest ih =>
    rw [pickUsed] at ih ⊢
    rw [List.filterMap_cons, List.filter_cons]
    cases hnames : Mention.referrers mentions kind (idOf asset) with
    | nil => simpa using ih
    | cons name names => simpa using ih

open Classical in
/-- Where the mentions of a class are its references, what is picked is what is referred to. -/
lemma usedExactly_pickUsed {Refers : String → String → Prop}
    (h : ∀ id who, ⟨kind, id, who⟩ ∈ mentions ↔ id ≠ "" ∧ Refers id who) (assets : List α) :
    UsedExactly Refers idOf assets (pickUsed mentions kind idOf assets) where
  assets_eq := by
    rw [map_asset_pickUsed]
    refine List.filter_congr fun asset _ => ?_
    rw [Bool.eq_iff_iff, Bool.not_eq_true', List.isEmpty_eq_false_iff_exists_mem, decide_eq_true_eq]
    simp only [Mention.mem_referrers_iff, h, exists_and_left]
  mem_referencedBy := by
    intro entry hentry who
    obtain ⟨-, hnames, hne⟩ := mem_pickUsed_iff.mp hentry
    -- some entity mentions the asset, so its id is not empty
    obtain ⟨name, hname⟩ := List.exists_mem_of_ne_nil _ hne
    rw [hnames, Mention.mem_referrers_iff, h] at hname
    rw [hnames, Mention.mem_referrers_iff, h, and_iff_right hname.1]
  ordered := by
    intro entry hentry
    rw [(mem_pickUsed_iff.mp hentry).2.1]
    exact Mention.pairwise_referrers mentions kind (idOf entry.asset)

end

/-! ## Variables -/

/-- The ids of variables in the order in which the walk over the scenes comes by them. -/
def variableUses (project : Project) (schema : Schema) : List String :=
  (walkScenes project.customEvents maxNesting project.scenes).flatMap fun visit =>
    ((Mention.ofEvent schema project.music visit.1.id visit.2.event).filter
      (·.kind = .variable)).map (·.id)

/-- The variable is one of the whole game: its id is a number or that of a variable of the
project. -/
def IsGameVariable (project : Project) (id : String) : Prop :=
  (∀ c ∈ id.toList, c.isDigit = true) ∨ ∃ v ∈ project.vars, v.id = id

/-- A list has the ids of the variables of the whole game that are referred to, each once, in the
order of their first use. -/
structure ListsVariables (project : Project) (schema : Schema) (ids : List String) : Prop where
  mem_iff : ∀ id, id ∈ ids ↔
    id ≠ "" ∧ IsGameVariable project id ∧ ∃ who, RefersTo project schema .variable id who
  nodup : ids.Nodup
  in_order : ids.Pairwise fun a b =>
    (variableUses project schema).idxOf a < (variableUses project schema).idxOf b

section

variable {project : Project} {schema : Schema}

lemma isGlobal_iff {id : String} :
    Usage.isGlobal project id = true ↔ IsGameVariable project id := by
  simp [Usage.isGlobal, IsGameVariable]

lemma kind_of_mem_ofScene {settings : Settings} {scene : Scene} {mention : Mention}
    (h : mention ∈ Mention.ofScene settings scene) : mention.kind ≠ .variable := by
  simp only [Mention.ofScene, List.mem_append, List.mem_cons, List.not_mem_nil, or_false,
    List.mem_map] at h
  rcases h with (rfl | rfl | rfl) | ⟨actor, -, rfl⟩ <;> simp

lemma kind_of_mem_ofSettings {mention : Mention} (h : mention ∈ Mention.ofSettings project) :
    mention.kind ≠ .variable := by
  simp only [Mention.ofSettings, List.mem_append, List.mem_singleton, List.mem_map] at h
  rcases h with ⟨entry, -, rfl⟩ | rfl <;> simp

lemma variableMentions_eq :
    ((Mention.ofProject project schema).filter (·.kind = .variable)).map (·.id) =
      (variableUses project schema).filter (· ≠ "") := by
  have hscenes : (project.scenes.flatMap (Mention.ofScene project.settings)).filter
      (·.kind = .variable) = [] := by
    rw [List.filter_eq_nil_iff]
    intro mention hmention
    obtain ⟨scene, -, hmention⟩ := List.mem_flatMap.mp hmention
    simpa using kind_of_mem_ofScene hmention
  have hsettings : (Mention.ofSettings project).filter (·.kind = .variable) = [] := by
    rw [List.filter_eq_nil_iff]
    intro mention hmention
    simpa using kind_of_mem_ofSettings hmention
  have hevents : ∀ events : List Mention,
      (events ++ project.scenes.flatMap (Mention.ofScene project.settings) ++
        Mention.ofSettings project).filter (·.kind = .variable) =
        events.filter (·.kind = .variable) := by
    intro events
    rw [List.filter_append, List.filter_append, hscenes, hsettings, List.append_nil,
      List.append_nil]
  rw [Mention.ofProject, List.filter_comm, hevents, variableUses, ← List.map_flatMap,
    ← List.filter_flatMap, List.filter_map]
  rfl

/-- The used variables are listed as they should be. -/
lemma listsVariables_usedVariables :
    ListsVariables project schema
      (Usage.usedVariables project (Mention.ofProject project schema)) where
  mem_iff := by
    intro id
    rw [Usage.usedVariables, List.mem_filter, List.mem_eraseDups, isGlobal_iff, List.mem_map]
    constructor
    · rintro ⟨⟨⟨kind, _, who⟩, hmention, rfl⟩, hglobal⟩
      obtain ⟨hmention, hkind⟩ := List.mem_filter.mp hmention
      obtain rfl : kind = .variable := of_decide_eq_true hkind
      obtain ⟨hid, hrefers⟩ := (Mention.mem_ofProject_iff (by simp) (by simp)).mp hmention
      exact ⟨hid, hglobal, who, hrefers⟩
    · rintro ⟨hid, hglobal, who, hrefers⟩
      have hmention : ⟨.variable, id, who⟩ ∈ Mention.ofProject project schema :=
        (Mention.mem_ofProject_iff (by simp) (by simp)).mpr ⟨hid, hrefers⟩
      exact ⟨⟨_, List.mem_filter.mpr ⟨hmention, by simp⟩, rfl⟩, hglobal⟩
  nodup := (FirstOccurrence.nodup_eraseDups _).filter _
  in_order := by
    rw [Usage.usedVariables, variableMentions_eq, FirstOccurrence.eraseDups_filter]
    exact (FirstOccurrence.pairwise_idxOf_eraseDups _).sublist
      (List.filter_sublist.trans List.filter_sublist)

end

/-! ## The usage of a project -/

lemma usedExactly_ofProject {α : Type} (project : Project) (schema : Schema) {kind : Reference}
    (hfont : kind ≠ .font) (hmusic : kind ≠ .music) (idOf : α → String) (assets : List α) :
    UsedExactly (RefersTo project schema kind) idOf assets
      (pickUsed (Mention.ofProject project schema) kind idOf assets) :=
  usedExactly_pickUsed (fun _ _ => Mention.mem_ofProject_iff hfont hmusic) assets

/-- What a project uses is what its entities refer to: the backgrounds, tilesets, sprites, avatars,
emotes and sounds that are referred to, in the order of the project and with those that refer to
them, and the variables of the whole game that are referred to, in the order of their first use. -/
theorem usage_exact (project : Project) (schema : Schema) :
    UsedExactly (RefersTo project schema .background) (·.id) project.backgrounds
        (Usage.ofProject project schema).backgrounds ∧
      UsedExactly (RefersTo project schema .tileset) (·.id) project.tilesets
        (Usage.ofProject project schema).tilesets ∧
      UsedExactly (RefersTo project schema .sprite) (·.id) project.sprites
        (Usage.ofProject project schema).sprites ∧
      UsedExactly (RefersTo project schema .avatar) (·.id) project.avatars
        (Usage.ofProject project schema).avatars ∧
      UsedExactly (RefersTo project schema .emote) (·.id) project.emotes
        (Usage.ofProject project schema).emotes ∧
      UsedExactly (RefersTo project schema .sound) (·.id) project.sounds
        (Usage.ofProject project schema).sounds ∧
      ListsVariables project schema (Usage.ofProject project schema).vars := by
  refine ⟨?_, ?_, ?_, ?_, ?_, ?_, listsVariables_usedVariables⟩
  all_goals exact usedExactly_ofProject project schema (by simp) (by simp) _ _

-- A sprite sheet that only the argument of a call names: the scene that calls uses it.
example :
    let dress : Event :=
      { command := "EVENT_ACTOR_SET_SPRITE", args := [("spriteSheetId", .string "$sheet$")] }
    let call : Event :=
      { command := Command.callCustom
        args := [("customEventId", .string "dress"), ("sheet", .string "hero")] }
    let project : Project :=
      { scenes := [{ id := "hall", script := [call] }]
        sprites := [{ id := "villain" }, { id := "hero" }]
        customEvents := [{ id := "dress", script := [dress] }] }
    (Usage.ofProject project .builtin).sprites.map
        (fun used => (used.asset.id, used.referencedBy)) = [("hero", ["hall"])] := by
  decide +kernel

end Cartridge
