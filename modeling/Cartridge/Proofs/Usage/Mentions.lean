import Mathlib.Data.String.Basic
import Cartridge.Proofs.List.FirstOccurrence
import Cartridge.Proofs.Script.Reachability
import Cartridge.Usage

/-!
# Mentions

A mention is found in an argument of a visited event, in a scene, in an actor or in the settings.
What an argument names is said by `Names`: a text under an argument that is declared for the class,
an entry of a list of references, and for variables also a number or an object of type `variable`.
The mentions in an argument are what it names (`mem_ofArgument_iff`).

`RefersTo` collects all ways in which an entity refers to something, those of the events by what is
reachable from the scripts of the entity.  The mentions of a project are exactly the references with
an id that is not empty (`mem_ofProject_iff`).  Fonts and music are left out: both have rules of
their own for what is used when nothing is named.
-/

namespace Cartridge

open Cartridge.Json
open Cartridge.Project
open Cartridge.Script

/-! ## Arguments -/

/-- An argument of a command names something of a class by its id. -/
inductive Names (schema : Schema) (command : String) (kind : Reference) :
    String × Value → String → Prop
  /-- A text where the class is declared. -/
  | text {name id : String} (hname : name ≠ "references")
    (hkind : schema.kind? command name = some kind) :
    Names schema command kind (name, .string id) id
  /-- A number where a variable is declared. -/
  | number {name : String} {n : Number} (hname : name ≠ "references")
    (hkind : schema.kind? command name = some kind) (hvariable : kind = .variable) :
    Names schema command kind (name, .number n) n.text
  /-- An object of type `variable` where a variable is declared. -/
  | object {name id : String} {fields : Fields} (hname : name ≠ "references")
    (hkind : schema.kind? command name = some kind) (hvariable : kind = .variable)
    (htype : Fields.get? fields "type" = some (.string "variable"))
    (hvalue : Fields.get? fields "value" = some (.string id)) :
    Names schema command kind (name, .object fields) id
  /-- An entry of a list of references. -/
  | listed {id : String} {entries : List Value} {entry : Value} (hentry : entry ∈ entries)
    (htype : entry.field? "type" = some (.string kind.name))
    (hid : entry.field? "id" = some (.string id)) :
    Names schema command kind ("references", .array entries) id

variable {text : String}

lemma bind_string?_eq_some {found : Option Value} :
    found.bind Value.string? = some text ↔ found = some (.string text) := by
  rcases found with _ | value
  · simp
  · cases value <;> simp [Value.string?]

lemma exists_string?_iff {found : Option Value} :
    (∃ value, found = some value ∧ value.string? = some text) ↔ found = some (.string text) := by
  rw [← Option.bind_eq_some_iff, bind_string?_eq_some]

lemma Reference.ofName?_eq_some_iff {kind : Reference} :
    ofName? text = some kind ↔ text = kind.name := by
  constructor
  · intro h
    have hname := List.find?_some h
    exact (beq_iff_eq.mp hname).symm
  · rintro rfl
    cases kind <;> decide

namespace Mention

variable {who : String} {mention : Mention}

lemma ofListed?_eq_some_iff {entry : Value} :
    ofListed? who entry = some mention ↔ mention.who = who ∧
      entry.field? "type" = some (.string mention.kind.name) ∧
        entry.field? "id" = some (.string mention.id) := by
  obtain ⟨kind, id, name⟩ := mention
  simp only [ofListed?, Option.bind_eq_bind, Option.bind_eq_some_iff, exists_string?_iff,
    Option.pure_def, Option.some.injEq, Mention.mk.injEq]
  constructor
  · rintro ⟨found, ⟨text, htext, hfound⟩, given, hgiven, rfl, rfl, rfl⟩
    rw [Reference.ofName?_eq_some_iff] at hfound
    exact ⟨rfl, hfound ▸ htext, hgiven⟩
  · rintro ⟨rfl, htype, hid⟩
    exact ⟨kind, ⟨_, htype, Reference.ofName?_eq_some_iff.mpr rfl⟩, id, hid, rfl, rfl, rfl⟩

lemma argumentId?_eq_some_iff {kind : Reference} {value : Value} {id : String} :
    argumentId? kind value = some id ↔ value = .string id ∨
      kind = .variable ∧ ((∃ n, value = .number n ∧ n.text = id) ∨
        ∃ fields, value = .object fields ∧
          Fields.get? fields "type" = some (.string "variable") ∧
          Fields.get? fields "value" = some (.string id)) := by
  cases value with
  | number n =>
    simp only [argumentId?]
    split_ifs with hkind <;> simp [hkind]
  | object fields =>
    simp only [argumentId?]
    split_ifs with hcase <;>
      rw [Bool.and_eq_true, decide_eq_true_eq, beq_iff_eq, bind_string?_eq_some] at hcase
    · simp [hcase.1, hcase.2, bind_string?_eq_some]
    · simp only [false_iff, Value.object.injEq, false_or]
      rintro ⟨hkind, ⟨_, hnone, -⟩ | ⟨_, rfl, htype, -⟩⟩
      · exact hnone
      · exact hcase ⟨hkind, htype⟩
  | _ => simp [argumentId?]

lemma mem_ofArgument_iff {schema : Schema} {command : String} {arg : String × Value} :
    mention ∈ ofArgument schema command who arg ↔
      mention.who = who ∧ Names schema command mention.kind arg mention.id := by
  obtain ⟨name, value⟩ := arg
  obtain ⟨kind, id, entity⟩ := mention
  rw [ofArgument]
  split_ifs with hname
  · -- only the entries of an array are looked at
    dsimp only at hname
    subst hname
    rw [List.mem_filterMap]
    simp only [ofListed?_eq_some_iff]
    constructor
    · rintro ⟨entry, hentry, rfl, htype, hid⟩
      cases value with
      | array entries => exact ⟨rfl, .listed hentry htype hid⟩
      | _ => exact absurd hentry List.not_mem_nil
    · rintro ⟨rfl, hnames⟩
      cases hnames with
      | listed hentry htype hid => exact ⟨_, hentry, rfl, htype, hid⟩
      | text hname => exact absurd rfl hname
      | number hname => exact absurd rfl hname
      | object hname => exact absurd rfl hname
  · constructor
    · intro h
      cases hkind : schema.kind? command name with
      | none =>
        rw [hkind] at h
        exact absurd h List.not_mem_nil
      | some found =>
        simp only [hkind, Option.mem_toList, Option.map_eq_some_iff, Mention.mk.injEq,
          argumentId?_eq_some_iff] at h
        obtain ⟨_, hgiven, rfl, rfl, rfl⟩ := h
        rcases hgiven with rfl | ⟨hvariable, ⟨n, rfl, rfl⟩ | ⟨fields, rfl, htype, hvalue⟩⟩
        · exact ⟨rfl, .text hname hkind⟩
        · exact ⟨rfl, .number hname hkind hvariable⟩
        · exact ⟨rfl, .object hname hkind hvariable htype hvalue⟩
    · rintro ⟨rfl, hnames⟩
      have hfound : schema.kind? command name = some kind ∧ argumentId? kind value = some id := by
        rw [argumentId?_eq_some_iff]
        cases hnames with
        | listed => exact absurd rfl hname
        | text _ hkind => exact ⟨hkind, .inl rfl⟩
        | number _ hkind hvariable => exact ⟨hkind, .inr ⟨hvariable, .inl ⟨_, rfl, rfl⟩⟩⟩
        | object _ hkind hvariable htype hvalue =>
          exact ⟨hkind, .inr ⟨hvariable, .inr ⟨_, rfl, htype, hvalue⟩⟩⟩
      simp only [hfound.1, hfound.2]
      exact List.mem_singleton.mpr rfl

/-- The mentions in an event are what its arguments name; only music is also played unnamed. -/
lemma mem_ofEvent_iff {schema : Schema} {music : List Track} {event : Event}
    (hkind : mention.kind ≠ .music) :
    mention ∈ ofEvent schema music who event ↔ mention.who = who ∧
      ∃ arg ∈ event.args, Names schema event.command mention.kind arg mention.id := by
  have hmusic : mention ∉ (if event.command = Command.playMusic && (event.text? "musicId").isNone
      then (music.head?.map fun track => ⟨.music, track.id, who⟩).toList else []) := by
    split_ifs
    · intro hmem
      obtain ⟨track, -, rfl⟩ := Option.map_eq_some_iff.mp (Option.mem_toList.mp hmem)
      exact hkind rfl
    · exact List.not_mem_nil
  rw [ofEvent, List.mem_append, or_iff_left hmusic, List.mem_flatMap]
  simp only [mem_ofArgument_iff]
  constructor
  · rintro ⟨arg, harg, hwho, hnames⟩
    exact ⟨hwho, arg, harg, hnames⟩
  · rintro ⟨hwho, arg, harg, hnames⟩
    exact ⟨arg, harg, hwho, hnames⟩

end Mention

/-! ## References -/

/-- An entity refers to something of a class by its id. -/
inductive RefersTo (project : Project) (schema : Schema) : Reference → String → String → Prop
  /-- A scene, actor or trigger, by an argument of an event that is reachable from its scripts. -/
  | event {scene : Scene} {owner : Owner} {slot : Slot} {depth : Nat} {event : Event}
    {arg : String × Value} {kind : Reference} {id : String} (hscene : scene ∈ project.scenes)
    (howner : owner ∈ owners scene) (hslot : slot ∈ owner.slots)
    (hevent : Reachable project.customEvents maxNesting slot.2 depth event)
    (harg : arg ∈ event.args) (hnames : Names schema event.command kind arg id) :
    RefersTo project schema kind id owner.id
  /-- A scene, by its background. -/
  | background {scene : Scene} (hscene : scene ∈ project.scenes) :
    RefersTo project schema .background scene.backgroundId scene.id
  /-- A scene, by its tileset. -/
  | tileset {scene : Scene} (hscene : scene ∈ project.scenes) :
    RefersTo project schema .tileset scene.tilesetId scene.id
  /-- A scene, by the sprite sheet it has for the player. -/
  | player {scene : Scene} (hscene : scene ∈ project.scenes)
    (hplayer : scene.playerSpriteSheetId ≠ "") :
    RefersTo project schema .sprite scene.playerSpriteSheetId scene.id
  /-- A scene without one, by the default for its type. -/
  | defaultPlayer {scene : Scene} {id : String} (hscene : scene ∈ project.scenes)
    (hplayer : scene.playerSpriteSheetId = "")
    (hdefault : Fields.get? project.settings.defaultPlayerSprites scene.type = some id) :
    RefersTo project schema .sprite id scene.id
  /-- An actor, by its sprite sheet. -/
  | actor {scene : Scene} {actor : Actor} (hscene : scene ∈ project.scenes)
    (hactor : actor ∈ scene.actors) :
    RefersTo project schema .sprite actor.spriteSheetId actor.id
  /-- The settings, by a default for the player. -/
  | settings {type id : String} (hentry : (type, id) ∈ project.settings.defaultPlayerSprites) :
    RefersTo project schema .sprite id "settings"

namespace Mention

variable {project : Project} {schema : Schema} {mention : Mention}

lemma refersTo_of_mem_ofScene {scene : Scene} (hscene : scene ∈ project.scenes)
    (h : mention ∈ ofScene project.settings scene) (hid : mention.id ≠ "") :
    RefersTo project schema mention.kind mention.id mention.who := by
  simp only [ofScene, List.mem_append, List.mem_cons, List.not_mem_nil, or_false, List.mem_map] at h
  rcases h with (rfl | rfl | rfl) | ⟨actor, hactor, rfl⟩
  · exact .background hscene
  · exact .tileset hscene
  · by_cases hplayer : scene.playerSpriteSheetId = ""
    · -- without a default there is no id
      simp only [playerSpriteId, if_pos hplayer] at hid ⊢
      cases hdefault : Fields.get? project.settings.defaultPlayerSprites scene.type with
      | none => exact absurd (by rw [hdefault]; rfl) hid
      | some id => exact .defaultPlayer hscene hplayer hdefault
    · simp only [playerSpriteId, if_neg hplayer]
      exact .player hscene hplayer
  · exact .actor hscene hactor

lemma refersTo_of_mem_ofSettings (h : mention ∈ ofSettings project) (hkind : mention.kind ≠ .font) :
    RefersTo project schema mention.kind mention.id mention.who := by
  simp only [ofSettings, List.mem_append, List.mem_map, List.mem_singleton] at h
  rcases h with ⟨⟨type, id⟩, hentry, rfl⟩ | rfl
  · exact .settings hentry
  · exact absurd rfl hkind

lemma mem_ofScene_player {settings : Settings} {scene : Scene} :
    ⟨.sprite, playerSpriteId settings scene, scene.id⟩ ∈ ofScene settings scene := by
  simp [ofScene]

/-- The mentions of a project are the references by an id that is not empty. -/
lemma mem_ofProject_iff (hfont : mention.kind ≠ .font) (hmusic : mention.kind ≠ .music) :
    mention ∈ ofProject project schema ↔
      mention.id ≠ "" ∧ RefersTo project schema mention.kind mention.id mention.who := by
  rw [ofProject, List.mem_filter, decide_eq_true_eq, and_comm, and_congr_right_iff]
  intro hid
  rw [List.mem_append, List.mem_append]
  constructor
  · rintro ((hevents | hscenes) | hsettings)
    · obtain ⟨⟨owner, event, depth⟩, hvisit, hmention⟩ := List.mem_flatMap.mp hevents
      obtain ⟨scene, hscene, howner, slot, hslot, hreach⟩ := mem_walkScenes_iff.mp hvisit
      obtain ⟨hwho, arg, harg, hnames⟩ := (mem_ofEvent_iff hmusic).mp hmention
      rw [hwho]
      exact .event hscene howner hslot hreach harg hnames
    · obtain ⟨scene, hscene, hmention⟩ := List.mem_flatMap.mp hscenes
      exact refersTo_of_mem_ofScene hscene hmention hid
    · exact refersTo_of_mem_ofSettings hsettings hfont
  · intro h
    obtain ⟨kind, id, who⟩ := mention
    dsimp only at hfont hmusic h
    cases h with
    | @event scene owner slot depth event arg _ _ hscene howner hslot hevent harg hnames =>
      refine .inl (.inl (List.mem_flatMap.mpr ⟨(owner, ⟨event, depth⟩), ?_, ?_⟩))
      · exact mem_walkScenes_iff.mpr ⟨scene, hscene, howner, slot, hslot, hevent⟩
      · exact (mem_ofEvent_iff hmusic).mpr ⟨rfl, arg, harg, hnames⟩
    | background hscene =>
      exact .inl (.inr (List.mem_flatMap.mpr ⟨_, hscene, by simp [ofScene]⟩))
    | tileset hscene =>
      exact .inl (.inr (List.mem_flatMap.mpr ⟨_, hscene, by simp [ofScene]⟩))
    | @player scene hscene hplayer =>
      have hid : playerSpriteId project.settings scene = scene.playerSpriteSheetId := if_neg hplayer
      exact .inl (.inr (List.mem_flatMap.mpr ⟨_, hscene, hid ▸ mem_ofScene_player⟩))
    | @defaultPlayer scene id hscene hplayer hdefault =>
      have hid : playerSpriteId project.settings scene = id := by
        rw [playerSpriteId, if_pos hplayer, hdefault, Option.getD_some]
      exact .inl (.inr (List.mem_flatMap.mpr ⟨_, hscene, hid ▸ mem_ofScene_player⟩))
    | actor hscene hactor =>
      refine .inl (.inr (List.mem_flatMap.mpr ⟨_, hscene, List.mem_append_right _ ?_⟩))
      exact List.mem_map.mpr ⟨_, hactor, rfl⟩
    | settings hentry =>
      exact .inr (List.mem_append_left _ (List.mem_map.mpr ⟨_, hentry, rfl⟩))

/-! ## Referrers -/

lemma mem_referrers_iff {mentions : List Mention} {kind : Reference} {id who : String} :
    who ∈ referrers mentions kind id ↔ ⟨kind, id, who⟩ ∈ mentions := by
  rw [referrers, List.mem_mergeSort, List.mem_eraseDups, List.mem_map]
  constructor
  · rintro ⟨⟨_, _, _⟩, hfound, rfl⟩
    rw [List.mem_filter, Bool.and_eq_true, decide_eq_true_eq, decide_eq_true_eq] at hfound
    obtain ⟨hmention, rfl, rfl⟩ := hfound
    exact hmention
  · intro hmention
    exact ⟨_, List.mem_filter.mpr ⟨hmention, by simp⟩, rfl⟩

/-- They are listed in increasing order, each once. -/
lemma pairwise_referrers (mentions : List Mention) (kind : Reference) (id : String) :
    (referrers mentions kind id).Pairwise (· < ·) := by
  rw [referrers]
  generalize List.map _ _ = names
  have hsorted : (names.eraseDups.mergeSort).Pairwise (· ≤ ·) := by
    refine (List.pairwise_mergeSort ?_ ?_ names.eraseDups).imp fun hle => of_decide_eq_true hle
    · intro a b c hab hbc
      exact decide_eq_true ((of_decide_eq_true hab).trans (of_decide_eq_true hbc))
    · intro a b
      simpa using le_total a b
  have hnodup : (names.eraseDups.mergeSort).Nodup :=
    (List.mergeSort_perm _ _).nodup_iff.mpr (FirstOccurrence.nodup_eraseDups names)
  exact hsorted.imp₂ (fun _ _ hle hne => lt_of_le_of_ne hle hne) hnodup

end Mention

end Cartridge
