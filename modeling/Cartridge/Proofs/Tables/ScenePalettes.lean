import Cartridge.Proofs.Digest.Encoding
import Cartridge.Proofs.Tables.References
import Cartridge.Proofs.Tables.SceneBackgrounds

/-!
# The palettes of scenes

Palettes may be derived from the picture of a background, and a background that is combined with
several tilesets has a picture for each of them.  `Colored` is the rule for the colours of a slot:
those that were derived from a picture, else those that the scene chooses, else those of the
settings, else the built-in ones.

The set of a scene follows the rule for the first variant of its background, whichever variant the
scene shows (`painted_of_build`).  The two are the same where the scene asks for the tileset that
the background is combined with first (`find?_eq_some_place_iff`); elsewhere a scene can be
painted with the colours of a picture that it does not show.

Sets are shared by their keys, so all of this is up to collisions of the digest.
-/

namespace Cartridge.Tables

open Cartridge.Digest (Key CollisionFree keyStream)
open Cartridge.Files (FileTree)
open Cartridge.Project
open Cartridge.Symbol (Allocator)
open Cartridge.Tile (Encoder)

/-! ## The rule for colours -/

/-- The last palette with an id. -/
def LastWith (palettes : List Palette) (id : String) (palette : Palette) : Prop :=
  ∃ front back, palettes = front ++ palette :: back ∧ palette.id = id ∧ ∀ p ∈ back, p.id ≠ id

/-- The palette of a slot that no picture gives. -/
inductive Chosen (project : Project) (scene : Scene) (slot : Nat) : Palette → Prop
  | builtin (h : scene.paletteIds[slot]? = some monochromeId) :
      Chosen project scene slot .monochrome
  | own {id palette} (h : scene.paletteIds[slot]? = some id) (hid : id ≠ monochromeId)
      (hlast : LastWith project.palettes id palette) : Chosen project scene slot palette
  | default {id palette}
      (hown : ∀ own ∈ scene.paletteIds[slot]?,
        own ≠ monochromeId ∧ own ∉ project.palettes.map (·.id))
      (h : project.settings.defaultBackgroundPaletteIds[slot]? = some id)
      (hlast : LastWith project.palettes id palette) : Chosen project scene slot palette
  | fallback
      (hown : ∀ own ∈ scene.paletteIds[slot]?,
        own ≠ monochromeId ∧ own ∉ project.palettes.map (·.id))
      (h : ∀ id ∈ project.settings.defaultBackgroundPaletteIds[slot]?,
        id ∉ project.palettes.map (·.id)) : Chosen project scene slot .monochrome

/-- The colours of a slot of a scene's background, given the palettes of a picture. -/
inductive Colored (project : Project) (scene : Scene) (auto : Option (List Palette)) (slot : Nat) :
    Shades → Prop
  | derived {palettes palette} (hauto : auto = some palettes)
      (h : palettes[slot]? = some palette) : Colored project scene auto slot palette.colors
  | chosen {palette} (hauto : ∀ palettes ∈ auto, palettes.length ≤ slot)
      (h : Chosen project scene slot palette) : Colored project scene auto slot palette.colors

lemma find?_reverse_eq_some_iff {palettes : List Palette} {id : String} {palette : Palette} :
    palettes.reverse.find? (fun p => p.id == id) = some palette ↔ LastWith palettes id palette := by
  rw [List.find?_eq_some_iff_append, LastWith]
  simp only [beq_iff_eq, Bool.not_eq_true', beq_eq_false_iff_ne]
  constructor
  · rintro ⟨hid, back, front, hpalettes, hback⟩
    refine ⟨front.reverse, back.reverse, ?_, hid, fun p hp => hback p (List.mem_reverse.mp hp)⟩
    rw [← List.reverse_reverse palettes, hpalettes]
    simp
  · rintro ⟨front, back, rfl, hid, hback⟩
    exact ⟨hid, back.reverse, front.reverse, by simp, fun p hp => hback p (List.mem_reverse.mp hp)⟩

lemma find?_reverse_eq_none_iff {palettes : List Palette} {id : String} :
    palettes.reverse.find? (fun p => p.id == id) = none ↔ id ∉ palettes.map (·.id) := by
  rw [List.find?_eq_none, List.mem_map, not_exists]
  simp

section

variable {palettes : List Palette} {chosen fallback : Option String} {palette : Palette}

lemma choosePalette_of_lastWith {id : String} (hid : id ≠ monochromeId)
    (h : LastWith palettes id palette) : choosePalette palettes (some id) fallback = palette := by
  rw [choosePalette, if_neg (by simpa using hid)]
  dsimp only
  rw [Option.bind_some, find?_reverse_eq_some_iff.mpr h, Option.some_or, Option.getD_some]

/-- Without a palette that is chosen, the default decides. -/
lemma choosePalette_of_unknown
    (h : ∀ own ∈ chosen, own ≠ monochromeId ∧ own ∉ palettes.map (·.id)) :
    choosePalette palettes chosen fallback =
      (fallback.bind fun id => palettes.reverse.find? fun p => p.id == id).getD .monochrome := by
  rw [choosePalette]
  cases chosen with
  | none => rfl
  | some own =>
    obtain ⟨hne, hmissing⟩ := h own rfl
    rw [if_neg (by simpa using hne)]
    dsimp only
    rw [Option.bind_some, find?_reverse_eq_none_iff.mpr hmissing, Option.none_or]

end

section

variable {project : Project} {scene : Scene} {slot : Nat}

/-- The rule leaves no choice. -/
lemma Chosen.choosePalette_eq {palette : Palette} (h : Chosen project scene slot palette) :
    choosePalette project.palettes scene.paletteIds[slot]?
      project.settings.defaultBackgroundPaletteIds[slot]? = palette := by
  cases h with
  | builtin h => rw [choosePalette, h, if_pos (beq_self_eq_true _)]
  | own h hid hlast => rw [h, choosePalette_of_lastWith hid hlast]
  | default hown h hlast =>
    rw [choosePalette_of_unknown hown, h, Option.bind_some,
      find?_reverse_eq_some_iff.mpr hlast, Option.getD_some]
  | fallback hown h =>
    rw [choosePalette_of_unknown hown]
    cases hdefault : project.settings.defaultBackgroundPaletteIds[slot]? with
    | none => rfl
    | some id =>
      rw [Option.bind_some, find?_reverse_eq_none_iff.mpr (h id hdefault), Option.getD_none]

lemma chosen_choosePalette : Chosen project scene slot
    (choosePalette project.palettes scene.paletteIds[slot]?
      project.settings.defaultBackgroundPaletteIds[slot]?) := by
  by_cases hown : ∀ own ∈ scene.paletteIds[slot]?,
      own ≠ monochromeId ∧ own ∉ project.palettes.map (·.id)
  · rw [choosePalette_of_unknown hown]
    cases hdefault : project.settings.defaultBackgroundPaletteIds[slot]? with
    | none => exact .fallback hown (by simp [hdefault])
    | some id =>
      rw [Option.bind_some]
      cases hfound : project.palettes.reverse.find? fun p => p.id == id with
      | none =>
        refine .fallback hown fun other hother => ?_
        cases hdefault.symm.trans hother
        exact find?_reverse_eq_none_iff.mp hfound
      | some palette => exact .default hown hdefault (find?_reverse_eq_some_iff.mp hfound)
  · push Not at hown
    obtain ⟨own, hchosen, hknown⟩ := hown
    rw [Option.mem_def] at hchosen
    by_cases hbuiltin : own = monochromeId
    · rw [hbuiltin] at hchosen
      rw [choosePalette, hchosen, if_pos (beq_self_eq_true _)]
      exact .builtin hchosen
    · cases hfound : project.palettes.reverse.find? fun p => p.id == own with
      | none => exact absurd (hknown hbuiltin) (find?_reverse_eq_none_iff.mp hfound)
      | some palette =>
        have hlast := find?_reverse_eq_some_iff.mp hfound
        rw [hchosen, choosePalette_of_lastWith hbuiltin hlast]
        exact .own hchosen hbuiltin hlast

/-- The choice of a palette follows the rule. -/
lemma chosen_iff {palette : Palette} :
    Chosen project scene slot palette ↔
      choosePalette project.palettes scene.paletteIds[slot]?
        project.settings.defaultBackgroundPaletteIds[slot]? = palette :=
  ⟨Chosen.choosePalette_eq, fun h => h ▸ chosen_choosePalette⟩

/-- The colours of a background follow the rule in every slot. -/
lemma colored_iff {auto : Option (List Palette)} (hslot : slot < paletteSlots) {shades : Shades} :
    Colored project scene auto slot shades ↔
      (backgroundColors project auto scene)[slot]? = some shades := by
  rw [backgroundColors, List.getElem?_map, List.getElem?_range hslot, Option.map_some,
    Option.some_inj]
  dsimp only
  constructor
  · intro h
    cases h with
    | derived hauto h => rw [hauto, Option.bind_some, h, Option.getD_some]
    | chosen hauto h =>
      have hnone : (auto.bind fun palettes => palettes[slot]?) = none := by
        rw [Option.bind_eq_none_iff]
        exact fun palettes hpalettes => List.getElem?_eq_none (hauto palettes hpalettes)
      rw [hnone, Option.getD_none, chosen_iff.mp h]
  · rintro rfl
    cases hderived : auto.bind fun palettes => palettes[slot]? with
    | none =>
      rw [Option.bind_eq_none_iff] at hderived
      exact .chosen
        (fun palettes hpalettes => List.getElem?_eq_none_iff.mp (hderived palettes hpalettes))
        (chosen_iff.mpr rfl)
    | some palette =>
      obtain ⟨palettes, hauto, hpalette⟩ := Option.bind_eq_some_iff.mp hderived
      exact .derived hauto hpalette

end

/-! ## Sharing sets -/

/-- What is at a place stays there while a list grows. -/
lemma getElem?_of_isPrefix {α : Type} {items later : List α} (h : items <+: later) {place : Nat}
    {a : α} (ha : items[place]? = some a) : later[place]? = some a := by
  obtain ⟨rest, rfl⟩ := h
  rwa [List.getElem?_append_left (List.getElem?_eq_some_iff.mp ha).1]

/-- Sets that were interned: what was stored stays, what is new is one of the sets under its own
key, and each set has a place under its key. -/
structure Interned (stored : List (Key × PaletteSet)) (sets : List PaletteSet)
    (result : List Nat × List (Key × PaletteSet)) : Prop where
  grows : stored <+: result.2
  source : ∀ entry ∈ result.2, entry ∈ stored ∨ entry.2 ∈ sets ∧ entry.1 = entry.2.key
  places : List.Forall₂ (fun set place => ∃ held, result.2[place]? = some (set.key, held)) sets
    result.1

lemma interned_internSet (stored : List (Key × PaletteSet)) (set : PaletteSet) :
    Interned stored [set] ([(internSet stored set).1], (internSet stored set).2) := by
  rw [internSet]
  split
  · rename_i place hplace
    obtain ⟨hlt, hkey, -⟩ := List.findIdx?_eq_some_iff_getElem.mp hplace
    refine ⟨List.prefix_rfl, fun _ => .inl, .cons ⟨stored[place].2, ?_⟩ .nil⟩
    rw [List.getElem?_eq_getElem hlt, ← beq_iff_eq.mp hkey]
  · refine ⟨List.prefix_append _ _, fun entry hentry => ?_, .cons ⟨set, ?_⟩ .nil⟩
    · refine (List.mem_append.mp hentry).imp id fun hnew => ?_
      rw [List.mem_singleton] at hnew
      rw [hnew]
      exact ⟨List.mem_singleton_self _, rfl⟩
    · exact List.getElem?_concat_length

lemma interned_internSets (stored : List (Key × PaletteSet)) (sets : List PaletteSet) :
    Interned stored sets (internSets stored sets) := by
  induction sets generalizing stored with
  | nil => exact ⟨List.prefix_rfl, fun _ => .inl, .nil⟩
  | cons set rest ih =>
    have hfirst := interned_internSet stored set
    have hrest := ih (internSet stored set).2
    rw [internSets]
    refine ⟨hfirst.grows.trans hrest.grows, fun entry hentry => ?_, .cons ?_ hrest.places⟩
    · rcases hrest.source entry hentry with hbefore | ⟨hmem, hkey⟩
      · rcases hfirst.source entry hbefore with hstored | ⟨hmem, hkey⟩
        · exact .inl hstored
        · exact .inr ⟨List.mem_cons.mpr (.inl (List.mem_singleton.mp hmem)), hkey⟩
      · exact .inr ⟨List.mem_cons_of_mem _ hmem, hkey⟩
    · obtain ⟨⟨held, hheld⟩, -⟩ := List.forall₂_cons.mp hfirst.places
      exact ⟨held, getElem?_of_isPrefix hrest.grows hheld⟩

/-- The value of a name that is given once. -/
lemma lastOf?_eq_some_of_mem {α : Type} {entries : List (String × α)}
    (hnodup : (entries.map (·.1)).Nodup) {name : String} {value : α}
    (h : (name, value) ∈ entries) : lastOf? entries name = some value := by
  rw [lastOf?]
  cases hfound : entries.reverse.find? fun entry => entry.1 == name with
  | none => simpa using List.find?_eq_none.mp hfound _ (List.mem_reverse.mpr h)
  | some entry =>
    have hmem := List.mem_reverse.mp (List.mem_of_find?_eq_some hfound)
    have hname := List.find?_some hfound
    rw [beq_iff_eq] at hname
    rw [List.inj_on_of_nodup_map hnodup hmem h hname, Option.map_some]

/-- A scene gets the set of its background, unless another scene's has the same key. -/
lemma exists_backgroundSet {project : Project} {table : Backgrounds}
    (hids : (project.scenes.map (·.id)).Nodup)
    (hkeys : ∀ scene ∈ project.scenes, ∀ other ∈ project.scenes,
      (backgroundSet project table scene).key = (backgroundSet project table other).key →
        backgroundSet project table scene = backgroundSet project table other)
    {scene : Scene} (hscene : scene ∈ project.scenes) :
    ∃ place, lastOf? (buildPalettes project table).sceneBackground scene.id = some place ∧
      (buildPalettes project table).sets[place]? = some (backgroundSet project table scene) := by
  have hbackgrounds := interned_internSets [] (project.scenes.map (backgroundSet project table))
  have hsprites := interned_internSets
    (internSets [] (project.scenes.map (backgroundSet project table))).2
    (project.scenes.map (spriteSet project))
  obtain ⟨hlength, hplaces⟩ :=
    List.forall₂_iff_zip.mp (List.forall₂_map_left_iff.mp hbackgrounds.places)
  obtain ⟨place, hplace⟩ : ∃ place, (scene, place) ∈ project.scenes.zip
      (internSets [] (project.scenes.map (backgroundSet project table))).1 := by
    rw [← List.map_fst_zip (Nat.le_of_eq hlength)] at hscene
    obtain ⟨pair, hpair, rfl⟩ := List.mem_map.mp hscene
    exact ⟨pair.2, hpair⟩
  obtain ⟨held, hheld⟩ := hplaces hplace
  refine ⟨place, lastOf?_eq_some_of_mem ?_ ?_, ?_⟩
  · rw [sceneBackground_buildPalettes, List.map_fst_zip (by rw [List.length_map, hlength])]
    exact hids
  · rw [sceneBackground_buildPalettes, List.zip_map_left]
    exact List.mem_map_of_mem hplace
  · -- the set at the place is that of some scene, with the same key
    have hsource := hbackgrounds.source _ (List.mem_of_getElem? hheld)
    obtain ⟨hmem, hkey⟩ := hsource.resolve_left List.not_mem_nil
    obtain ⟨other, hother, rfl⟩ := List.mem_map.mp hmem
    have hfinal := getElem?_of_isPrefix hsprites.grows hheld
    rw [hkeys scene hscene other hother hkey]
    show (List.map _ _)[place]? = _
    rw [List.getElem?_map, hfinal, Option.map_some]

/-! ## Keys of sets -/

lemma calls_shades (shades : Shades) :
    Digest.calls shades.toList = [.tag "seq", Digest.countCall 4, .text shades.white,
      .text shades.light, .text shades.dark, .text shades.black] :=
  rfl

lemma flatMap_calls_inj (mark : List Digest.Call) {colors others : List Shades}
    (h : (colors.flatMap fun shades => mark ++ Digest.calls shades.toList) =
      others.flatMap fun shades => mark ++ Digest.calls shades.toList) : colors = others := by
  induction colors generalizing others with
  | nil =>
    cases others with
    | nil => rfl
    | cons other others => simp [calls_shades] at h
  | cons color colors ih =>
    cases others with
    | nil => simp [calls_shades] at h
    | cons other others =>
      simp only [List.flatMap_cons, calls_shades, List.append_assoc, List.append_cancel_left_eq,
        List.cons_append, List.nil_append, List.cons.injEq, Digest.Call.text.injEq, true_and] at h
      obtain ⟨hwhite, hlight, hdark, hblack, hrest⟩ := h
      obtain rfl : color = other := by
        cases color
        cases other
        simp_all
      rw [ih hrest]

/-- The number of rows tells the layers apart, also as it is digested. -/
lemma Layer.eq_of_countCall_eq {layer other : Layer}
    (h : Digest.countCall layer.rows.length = Digest.countCall other.rows.length) :
    layer = other := by
  cases layer with
  | background =>
    cases other with
    | background => rfl
    | sprites => exact absurd h (by decide)
  | sprites =>
    cases other with
    | background => exact absurd h (by decide)
    | sprites => rfl

lemma PaletteSet.calls_injective : Function.Injective PaletteSet.calls := by
  rintro ⟨layer, colors⟩ ⟨layer', colors'⟩ h
  -- the number of rows comes before everything that depends on the colours
  obtain rfl : layer = layer' := Layer.eq_of_countCall_eq (List.cons.inj (List.cons.inj h).2).1
  have hcolors := List.append_cancel_left h
  cases colors with
  | none =>
    cases colors' with
    | none => rfl
    | some others => cases hcolors
  | some colors =>
    cases colors' with
    | none => cases hcolors
    | some others =>
      have hslots := (List.cons.inj (List.cons.inj (List.cons.inj hcolors).2).2).2
      rw [List.flatMap_map, List.flatMap_map] at hslots
      rw [flatMap_calls_inj [] hslots]

/-- Without a collision, sets with the same key are the same. -/
lemma PaletteSet.key_inj {IsMessage : List UInt8 → Prop} (h : CollisionFree IsMessage)
    {set other : PaletteSet} (hset : IsMessage (keyStream "palette-set" set.calls))
    (hother : IsMessage (keyStream "palette-set" other.calls)) (hkey : set.key = other.key) :
    set = other :=
  PaletteSet.calls_injective (h.ofCalls_inj hset hother hkey)

/-! ## First variants -/

section

variable {table : Backgrounds} {scene : Scene}

/-- The first entry of a background is the one at its first place. -/
lemma Backgrounds.find?_entries (table : Backgrounds) (id : String) :
    table.entries.find? (fun entry => entry.id == id) =
      (table.find? id).bind (table.entries[·]?) :=
  List.find?_eq_bind_findIdx?_getElem?

lemma findVariant?_eq_find? {first : BackgroundEntry} {tilesetId : String}
    (hfirst : table.entries.find? (fun entry => entry.id == scene.backgroundId) = some first)
    (htileset : tilesetId = "" ∨ first.commonTilesetId = some tilesetId) :
    table.findVariant? scene.backgroundId tilesetId = table.find? scene.backgroundId := by
  rw [Backgrounds.find?_entries] at hfirst
  obtain ⟨place, hplace, hget⟩ := Option.bind_eq_some_iff.mp hfirst
  rw [hplace, Backgrounds.findVariant?, List.findIdx?_eq_some_iff_getElem]
  obtain ⟨hlt, hid, hbefore⟩ := List.findIdx?_eq_some_iff_getElem.mp hplace
  obtain rfl : table.entries[place] = first :=
    Option.some_inj.mp ((List.getElem?_eq_getElem hlt).symm.trans hget)
  refine ⟨hlt, ?_, fun j hj htrue => hbefore j hj (Bool.and_eq_true_iff.mp htrue).1⟩
  rw [hid, Bool.true_and, Bool.or_eq_true, beq_iff_eq, beq_iff_eq]
  exact htileset

/-- The scene asks for no tileset of the project, or for the one that its background is first
combined with. -/
def ShowsFirst (project : Project) (scene : Scene) : Prop :=
  HasTileset project scene → ∀ leader,
    project.scenes.find? (fun other =>
      other.backgroundId = scene.backgroundId ∧ HasTileset project other) = some leader →
    leader.tilesetId = scene.tilesetId

variable {project : Project} {schema : Schema} {encoder : Encoder}

lemma Presents.commonTilesetId_eq_iff (h : Presents project schema encoder table)
    {first : BackgroundEntry}
    (hfirst : table.entries.find? (fun entry => entry.id == scene.backgroundId) = some first)
    (hscene : scene ∈ project.scenes) (htileset : HasTileset project scene) :
    first.commonTilesetId = some scene.tilesetId ↔ ShowsFirst project scene := by
  obtain ⟨leader, hleader⟩ : ∃ leader, project.scenes.find? (fun other =>
      other.backgroundId = scene.backgroundId ∧ HasTileset project other) = some leader :=
    Option.isSome_iff_exists.mp
      (List.find?_isSome.mpr ⟨scene, hscene, decide_eq_true ⟨rfl, htileset⟩⟩)
  have hasks := List.find?_some hleader
  rw [decide_eq_true_eq] at hasks
  obtain ⟨tileset, hfound⟩ := Option.isSome_iff_exists.mp (isSome_sceneTileset?_iff.mpr hasks.2)
  rw [h.commonTilesetId_of_find? hfirst, head?_commonTilesets, hleader, Option.bind_some, hfound,
    Option.map_some, Option.some_inj, (of_sceneTileset?_eq_some hfound).2.1]
  constructor
  · intro heq _ other hother
    rwa [← Option.some_inj.mp (hleader.symm.trans hother)]
  · exact fun hshows => hshows htileset leader hleader

lemma Presents.exists_first (h : Presents project schema encoder table)
    (hscene : scene ∈ project.scenes) (hhas : ¬LacksBackground project scene) :
    ∃ first, table.entries.find? (fun entry => entry.id == scene.backgroundId) = some first := by
  obtain ⟨place, hplace⟩ :=
    Option.ne_none_iff_exists'.mp ((h.find?_eq_none_iff hscene).not.mpr hhas)
  obtain ⟨hlt, -⟩ := List.findIdx?_eq_some_iff_getElem.mp hplace
  rw [Backgrounds.find?_entries, hplace, Option.bind_some, List.getElem?_eq_getElem hlt]
  exact ⟨_, rfl⟩

/-- A scene shows the first variant exactly when its tileset is the one that comes first. -/
lemma Presents.find?_eq_some_place_iff (h : Presents project schema encoder table)
    (hscene : scene ∈ project.scenes) {place : Nat} (hplace : table.placeOf? scene = some place) :
    table.find? scene.backgroundId = some place ↔ ShowsFirst project scene := by
  have hhas : ¬LacksBackground project scene := by
    rw [← h.placeOf?_eq_none_iff hscene, hplace]
    simp
  obtain ⟨first, hfirst⟩ := h.exists_first hscene hhas
  constructor
  · intro hfind htileset
    obtain ⟨shown, hshown, -, hbuilt⟩ := h.of_placeOf? hscene hplace
    have hsame := Backgrounds.find?_entries table scene.backgroundId
    rw [hfind, Option.bind_some, hshown] at hsame
    exact (h.commonTilesetId_eq_iff hsame hscene htileset).mp (hbuilt htileset) htileset
  · intro hshows
    rw [← hplace, Backgrounds.placeOf?]
    by_cases htileset : HasTileset project scene
    · have hbuilt := (h.commonTilesetId_eq_iff hfirst hscene htileset).mpr hshows
      rw [findVariant?_eq_find? hfirst (.inr hbuilt), Option.or_self]
    · by_cases hempty : scene.tilesetId = ""
      · rw [findVariant?_eq_find? hfirst (.inl hempty), Option.or_self]
      · have hlacks : LacksTileset project scene :=
          ⟨hempty, fun hmem => htileset ⟨hempty, hmem⟩⟩
        rw [(h.findVariant?_eq_none_iff hscene hhas).mpr hlacks, Option.none_or]

end

/-! ## Painted scenes -/

/-- What a scene shows, the first variant of its background, and the colours that it is painted
with. -/
structure Painted (tables : Tables) (entry : SceneEntry) (shown first : BackgroundEntry)
    (colors : List Shades) : Prop where
  shown : tables.backgrounds.entries[entry.background]? = some shown
  first : tables.backgrounds.entries.find? (fun other => other.id == entry.scene.backgroundId) =
    some first
  colors : ∃ place, lastOf? tables.palettes.sceneBackground entry.scene.id = some place ∧
    tables.palettes.sets[place]? = some ⟨.background, some colors⟩

/-- In every slot, the colours of a scene are those that the rule gives for a variant. -/
def Follows (project : Project) (scene : Scene) (variant : BackgroundEntry)
    (colors : List Shades) : Prop :=
  ∀ slot < paletteSlots, ∃ shades, colors[slot]? = some shades ∧
    Colored project scene variant.autoPalettes slot shades

section

variable {input : Input} {tree : FileTree} {a a' : Allocator} {tables : Tables}

/-- A message whose digest is the key of the palette set of a scene's background. -/
def IsSetMessage (project : Project) (table : Backgrounds) (message : List UInt8) : Prop :=
  ∃ scene ∈ project.scenes,
    message = keyStream "palette-set" (backgroundSet project table scene).calls

lemma backgroundSet_of_color {project : Project} (table : Backgrounds) (scene : Scene)
    (hcolor : project.settings.usesColorPalettes = true) :
    backgroundSet project table scene =
      ⟨.background, some (backgroundColors project (derivedPalettes table scene) scene)⟩ := by
  rw [backgroundSet, if_pos hcolor]

lemma derivedPalettes_of_first {table : Backgrounds} {scene : Scene} {first : BackgroundEntry}
    (hfirst : table.entries.find? (fun other => other.id == scene.backgroundId) = some first) :
    derivedPalettes table scene = first.autoPalettes := by
  rw [derivedPalettes, hfirst, Option.bind_some]

lemma painted_of_build (hok : (build input tree a).result = .ok (tables, a'))
    (hcolor : input.project.settings.usesColorPalettes = true)
    (hids : (input.project.scenes.map (·.id)).Nodup)
    (hdigest : CollisionFree (IsSetMessage input.project tables.backgrounds))
    {entry : SceneEntry} (hentry : entry ∈ tables.scenes) :
    ∃ shown first, Painted tables entry shown first
      (backgroundColors input.project first.autoPalettes entry.scene) := by
  obtain ⟨⟨later, hpresents⟩, hscenes, hplaces⟩ := shown_of_build hok
  have hscene : entry.scene ∈ input.project.scenes := hscenes ▸ List.mem_map_of_mem hentry
  obtain ⟨shown, hshown, -⟩ := hpresents.of_placeOf? hscene (hplaces entry hentry)
  have hhas : ¬LacksBackground input.project entry.scene := by
    rw [← hpresents.placeOf?_eq_none_iff hscene, hplaces entry hentry]
    simp
  obtain ⟨first, hfirst⟩ := hpresents.exists_first hscene hhas
  refine ⟨shown, first, hshown, hfirst, ?_⟩
  rw [palettes_build hok, ← derivedPalettes_of_first hfirst, ← backgroundSet_of_color _ _ hcolor]
  refine exists_backgroundSet hids (fun scene hscene other hother hkey => ?_) hscene
  exact PaletteSet.key_inj hdigest ⟨scene, hscene, rfl⟩ ⟨other, hother, rfl⟩ hkey

/-- A scene is painted by the rule for the first variant of its background.  So it is painted for
the variant that it shows exactly when the rule gives the same colours for both, as it does wherever
the scene shows the first variant. -/
theorem scenes_painted_for_first_variant (hok : (build input tree a).result = .ok (tables, a'))
    (hcolor : input.project.settings.usesColorPalettes = true)
    (hids : (input.project.scenes.map (·.id)).Nodup)
    (hdigest : CollisionFree (IsSetMessage input.project tables.backgrounds)) :
    ∀ entry ∈ tables.scenes, ∃ shown first colors, Painted tables entry shown first colors ∧
      Follows input.project entry.scene first colors ∧
      (Follows input.project entry.scene shown colors ↔ ∀ slot < paletteSlots, ∃ shades,
        Colored input.project entry.scene first.autoPalettes slot shades ∧
          Colored input.project entry.scene shown.autoPalettes slot shades) ∧
      (tables.backgrounds.find? entry.scene.backgroundId = some entry.background ↔
        ShowsFirst input.project entry.scene) ∧
      (ShowsFirst input.project entry.scene →
        Follows input.project entry.scene shown colors) := by
  intro entry hentry
  obtain ⟨shown, first, hpainted⟩ := painted_of_build hok hcolor hids hdigest hentry
  obtain ⟨⟨later, hpresents⟩, hscenes, hplaces⟩ := shown_of_build hok
  have hscene : entry.scene ∈ input.project.scenes := hscenes ▸ List.mem_map_of_mem hentry
  have hfirst := hpresents.find?_eq_some_place_iff hscene (hplaces entry hentry)
  have hfollows : Follows input.project entry.scene first
      (backgroundColors input.project first.autoPalettes entry.scene) := by
    intro slot hslot
    obtain ⟨shades, hshades⟩ : ∃ shades, (backgroundColors input.project first.autoPalettes
        entry.scene)[slot]? = some shades :=
      ⟨_, List.getElem?_eq_getElem (by simpa [backgroundColors] using hslot)⟩
    exact ⟨shades, hshades, (colored_iff hslot).mpr hshades⟩
  refine ⟨shown, first, _, hpainted, hfollows, ?_, hfirst, fun hshows => ?_⟩
  · refine forall₂_congr fun slot hslot => exists_congr fun shades => ?_
    rw [← colored_iff hslot]
  · have hsame : first = shown := by
      rw [← Option.some_inj, ← hpainted.first, Backgrounds.find?_entries, hfirst.mpr hshows,
        Option.bind_some, hpainted.shown]
    rw [← hsame]
    exact hfollows

end

/-! ## The alley by night -/

/-- A street by day and an alley by night, before one background. -/
def alleyInput : Input :=
  townInput [townScene "street" "town" "day", townScene "alley" "town" "night"]

variable {scene : Scene} {table : Backgrounds}

lemma eq_or_eq_of_mem_alley (h : scene ∈ alleyInput.project.scenes) :
    scene = townScene "street" "town" "day" ∨ scene = townScene "alley" "town" "night" :=
  List.mem_pair.mp h

/-- A variant that was encoded against a tileset has its colour. -/
lemma autoPalettes_of_encodedAgainst {project : Project} {entry : BackgroundEntry}
    (h : EncodedAgainst project tintingEncoder table scene entry) :
    entry.autoPalettes = (sceneTileset? project scene).map fun tileset => [tint tileset.name] := by
  obtain ⟨_, -, -, tileset, _, image, htileset, himage, hbuilt⟩ := h
  rw [hbuilt.autoPalettes, htileset]
  cases himage
  rfl

/-- The first variant of the town is the one by day. -/
lemma derivedPalettes_town (h : Presents alleyInput.project alleyInput.schema tintingEncoder table)
    (hscene : scene ∈ alleyInput.project.scenes) :
    derivedPalettes table scene = some [tint "80C0F8"] := by
  have hstreet : townScene "street" "town" "day" ∈ alleyInput.project.scenes := List.mem_cons_self
  obtain ⟨first, hfirst⟩ := h.exists_first hstreet (by decide)
  have hday : first.commonTilesetId = some "day" := by
    refine (h.commonTilesetId_eq_iff hfirst hstreet (by decide)).mpr ?_
    rintro - leader hleader
    cases hleader
    rfl
  have hid := List.find?_some hfirst
  rw [beq_iff_eq] at hid
  have hauto := autoPalettes_of_encodedAgainst
    (h.encodedAgainst (List.mem_of_find?_eq_some hfirst) hid hday)
  have htown : scene.backgroundId = "town" := by
    rcases eq_or_eq_of_mem_alley hscene with rfl | rfl <;> rfl
  rw [derivedPalettes_of_first (htown ▸ hfirst), hauto]
  rfl

lemma collisionFree_town (h : Presents alleyInput.project alleyInput.schema tintingEncoder table) :
    CollisionFree (IsSetMessage alleyInput.project table) := by
  -- both scenes have the same set
  have hmessage : ∀ message, IsSetMessage alleyInput.project table message →
      message = keyStream "palette-set" (PaletteSet.calls ⟨.background, some
        (backgroundColors alleyInput.project (some [tint "80C0F8"])
          (townScene "street" "town" "day"))⟩) := by
    rintro message ⟨scene, hscene, rfl⟩
    rw [backgroundSet_of_color _ _ rfl, derivedPalettes_town h hscene]
    rcases eq_or_eq_of_mem_alley hscene with rfl | rfl <;> rfl
  constructor
  · intro message hm
    rw [hmessage message hm]
    decide +kernel
  · intro message other hm ho _
    rw [hmessage message hm, hmessage other ho]

lemma exists_build_alley : ∃ tables a', (build alleyInput {} {}).result = .ok (tables, a') := by
  obtain ⟨encoded, hprepared⟩ : ∃ encoded, Prepares alleyInput {} {} tintingEncoder encoded :=
    exists_prepares rfl not_raises_tintingEncoder
  exact hprepared.exists_build (by decide) (by decide)

/-- What is known of the alley once everything is built. -/
lemma alley_of_build {tables : Tables} {a' : Allocator}
    (hok : (build alleyInput {} {}).result = .ok (tables, a')) :
    CollisionFree (IsSetMessage alleyInput.project tables.backgrounds) ∧
      ∃ entry ∈ tables.scenes, entry.scene = townScene "alley" "town" "night" := by
  obtain ⟨⟨_, hpresents⟩, hscenes, -⟩ := shown_of_build hok
  refine ⟨collisionFree_town hpresents, ?_⟩
  have hmem : townScene "alley" "town" "night" ∈ tables.scenes.map (·.scene) := by
    rw [hscenes]
    exact List.mem_cons_of_mem _ List.mem_cons_self
  exact List.mem_map.mp hmem

/-- The alley is painted for the first variant, which it does not show. -/
theorem scenes_painted_for_first_variant_alley :
    ∃ tables a', (build alleyInput {} {}).result = .ok (tables, a') ∧
      CollisionFree (IsSetMessage alleyInput.project tables.backgrounds) ∧
      ∃ entry ∈ tables.scenes, entry.scene = townScene "alley" "town" "night" ∧
        tables.backgrounds.find? entry.scene.backgroundId ≠ some entry.background ∧
        ∃ shown first colors, Painted tables entry shown first colors ∧
          Follows alleyInput.project entry.scene first colors := by
  obtain ⟨tables, a', hok⟩ := exists_build_alley
  obtain ⟨hdigest, entry, hentry, hscene⟩ := alley_of_build hok
  obtain ⟨shown, first, colors, hpainted, hfollows, -, hplace, -⟩ :=
    scenes_painted_for_first_variant hok rfl (by decide) hdigest entry hentry
  refine ⟨tables, a', hok, hdigest, entry, hentry, hscene, ?_, shown, first, colors, hpainted,
    hfollows⟩
  rw [ne_eq, hplace, hscene]
  intro hshows
  have hsame := hshows (by decide) (townScene "street" "town" "day") rfl
  revert hsame
  decide

/-- The alley shows the town by night and is painted in the colour of the day. -/
theorem alley_painted_by_day :
    ∃ tables a', (build alleyInput {} {}).result = .ok (tables, a') ∧
      ∃ entry ∈ tables.scenes, ∃ shown first colors, Painted tables entry shown first colors ∧
        shown.autoPalettes = some [tint "202850"] ∧ colors[0]? = some (tint "80C0F8").colors := by
  obtain ⟨tables, a', hok⟩ := exists_build_alley
  obtain ⟨hdigest, entry, hentry, hscene⟩ := alley_of_build hok
  obtain ⟨shown, first, hpainted⟩ := painted_of_build hok rfl (by decide) hdigest hentry
  obtain ⟨⟨_, hpresents⟩, hscenes, hplaces⟩ := shown_of_build hok
  have hmem : entry.scene ∈ alleyInput.project.scenes := hscenes ▸ List.mem_map_of_mem hentry
  refine ⟨tables, a', hok, entry, hentry, shown, first, _, hpainted, ?_, ?_⟩
  · obtain ⟨_, hshown, hid, htileset⟩ := hpresents.of_placeOf? hmem (hplaces entry hentry)
    obtain rfl := Option.some_inj.mp (hshown.symm.trans hpainted.shown)
    have hencoded := hpresents.encodedAgainst (List.mem_of_getElem? hshown) hid
      (htileset (hscene ▸ (by decide)))
    rw [autoPalettes_of_encodedAgainst hencoded, hscene]
    rfl
  · rw [← derivedPalettes_of_first hpainted.first, derivedPalettes_town hpresents hmem]
    rfl

end Cartridge.Tables
