import Cartridge.Proofs.Compile.Linking
import Cartridge.Proofs.Compile.ListingLines

/-!
# The arrays of a scene

The table of a scene tells how many actors, triggers, sprite sheets and projectiles the scene has,
and points to an array of each.  The numbers come from the lists of the scene, the entries from the
same lists and from scripts that were compiled earlier, so all of them agree: an array has as many
entries as the scene says, and the scripts of an entry are compiled from the very actor or trigger
that it describes (`agree_sceneArrays`).

In the text of an array one thing can break this.  The entry of an actor shows its name in a remark,
as it is.  A name with a line end in it leaves the remark and may add entries of its own, which the
scene does not count (`name_adds_actor`).
-/

namespace Cartridge.Compile

open Cartridge.Files (FileTree)
open Cartridge.Script
open Cartridge.Source
open Cartridge.Symbol
open Cartridge.Tables (SceneEntry Built)

/-! ## Arrays and their entries -/

/-- An array with one block of lines for each entry.  Without entries it has no table. -/
structure EntryArray (opening symbol : String) where
  table : Option Table
  entries : List (List Line)
  none_iff : table = none ↔ entries.length = 0
  layout : ∀ whole ∈ table, whole.symbol = symbol ∧
    whole.body = line (opening ++ symbol ++ "[] = \x7b") :: entries.flatten ++ [line "\x7d;"]

/-- The arrays of a scene. -/
structure SceneArrays (entry : SceneEntry) where
  actors : EntryArray "const actor_t " (entry.symbol ++ "_actors")
  triggers : EntryArray "const trigger_t " (entry.symbol ++ "_triggers")
  sprites : EntryArray "const far_ptr_t " (entry.symbol ++ "_sprites")
  projectiles : EntryArray "const projectile_def_t " (entry.symbol ++ "_projectiles")

/-- The entry of a sprite sheet. -/
def sheetLines (sheet : String) : List Line :=
  [[.text "    ", .pointer (some sheet), .text ","]]

lemma optional_eq_none_iff {isLeftOut : Bool} {whole : Table} :
    (if isLeftOut then none else some whole) = none ↔ isLeftOut = true := by
  cases isLeftOut <;> simp

/-- The arrays that are generated for a scene. -/
def sceneArrays (tables : Tables) (entry : SceneEntry) (own : SceneScripts) :
    SceneArrays entry where
  actors := {
    table := actorsTable? tables entry own
    entries := entry.actors.zipIdx.map fun (actor, i) =>
      actorLines tables actor.entity (scriptAt own.actors i) (scriptAt own.updates i)
    none_iff := optional_eq_none_iff.trans (by simp)
    layout := fun _ hwhole => eq_of_mem_optional hwhole ▸ ⟨rfl, rfl⟩ }
  triggers := {
    table := triggersTable? entry own
    entries := entry.triggers.zipIdx.map fun (trigger, i) =>
      triggerLines trigger.entity (scriptAt own.triggers i)
    none_iff := optional_eq_none_iff.trans (by simp)
    layout := fun _ hwhole => eq_of_mem_optional hwhole ▸ ⟨rfl, rfl⟩ }
  sprites := {
    table := spritesTable? tables entry
    entries := (entry.sprites.filterMap (sheetSymbol? tables)).map sheetLines
    none_iff := optional_eq_none_iff.trans (by simp)
    layout := fun _ hwhole => eq_of_mem_optional hwhole ▸ ⟨rfl, by
      rw [List.map_eq_flatMap, List.flatMap_def]
      rfl⟩ }
  projectiles := {
    table := projectilesTable? tables entry
    entries := entry.projectiles.map (projectileLines tables)
    none_iff := optional_eq_none_iff.trans (by simp)
    layout := fun _ hwhole => eq_of_mem_optional hwhole ▸ ⟨rfl, rfl⟩ }

/-- The tables of the arrays, in order. -/
def SceneArrays.tables {entry : SceneEntry} (arrays : SceneArrays entry) : List Table :=
  arrays.actors.table.toList ++ arrays.triggers.table.toList ++ arrays.sprites.table.toList ++
    arrays.projectiles.table.toList

/-- What the table of a scene tells about its arrays is so, and every entry belongs to what it
describes. -/
structure SceneArrays.Agree {entry : SceneEntry} (arrays : SceneArrays entry) (scope : Scope)
    (scripts : List Compiled) (limits : Platform.Limits) (tables : Tables) (scene : Table) :
    Prop where
  fields : ∃ front back, scene.body = front ++
    [numberField "n_actors" arrays.actors.entries.length,
      numberField "n_triggers" arrays.triggers.entries.length,
      numberField "n_sprites" arrays.sprites.entries.length,
      numberField "n_projectiles" arrays.projectiles.entries.length,
      pointerField "actors" (arrays.actors.table.map (·.symbol)),
      pointerField "triggers" (arrays.triggers.table.map (·.symbol)),
      pointerField "sprites" (arrays.sprites.table.map (·.symbol)),
      pointerField "projectiles" (arrays.projectiles.table.map (·.symbol))] ++ back
  actors_le : arrays.actors.entries.length ≤ limits.actors
  triggers_le : arrays.triggers.entries.length ≤ limits.triggers
  projectiles_le : arrays.projectiles.entries.length ≤ limits.projectiles
  nodup_sprites : arrays.sprites.entries.Nodup
  actors : List.Forall₂ (fun actor lines => ∃ script update,
      lines = actorLines tables actor.entity script update ∧
      Emitted scope scripts (interactRequest actor) script ∧
      Emitted scope scripts (updateRequest actor) update) entry.actors arrays.actors.entries
  triggers : List.Forall₂ (fun trigger lines => ∃ script,
      lines = triggerLines trigger.entity script ∧
      Emitted scope scripts (triggerRequest trigger) script) entry.triggers arrays.triggers.entries
  sprites : List.Forall₂ (fun id lines => ∃ sheet ∈ sheetSymbol? tables id,
      lines = sheetLines sheet) entry.sprites arrays.sprites.entries
  projectiles : arrays.projectiles.entries = entry.projectiles.map (projectileLines tables)

section

variable {α β : Type}

/-- What is attached by position belongs to the item at that position. -/
lemma forall₂_zipIdx_map {related : α → β → Prop} {items : List α} {f : α × Nat → β}
    (h : ∀ i item, items[i]? = some item → related item (f (item, i))) :
    List.Forall₂ related items (items.zipIdx.map f) := by
  refine List.forall₂_iff_get.mpr ⟨by simp, fun i hi hi' => ?_⟩
  simpa using h i items[i] (List.getElem?_eq_getElem hi)

lemma related_scriptAt {related : α → Option String → Prop} {items : List α}
    {symbols : List (Option String)} (h : List.Forall₂ related items symbols) {i : Nat} {item : α}
    (hitem : items[i]? = some item) : related item (scriptAt symbols i) := by
  obtain ⟨hi, rfl⟩ := List.getElem?_eq_some_iff.mp hitem
  have hi' : i < symbols.length := h.length_eq ▸ hi
  rw [scriptAt, List.getElem?_eq_getElem hi']
  exact h.get hi hi'

lemma forall₂_filterMap {f : α → Option β} {items : List α}
    (h : ∀ item ∈ items, (f item).isSome = true) :
    List.Forall₂ (fun item result => result ∈ f item) items (items.filterMap f) := by
  induction items with
  | nil => exact .nil
  | cons item rest ih =>
    obtain ⟨hfirst, hrest⟩ := List.forall_mem_cons.mp h
    obtain ⟨result, hresult⟩ := Option.isSome_iff_exists.mp hfirst
    rw [List.filterMap_cons_some hresult]
    exact .cons hresult (ih hrest)

end

/-- Different sheets have different symbols. -/
lemma eq_of_sheetSymbol? {tables : Tables} (hnodup : (tables.sprites.entries.map (·.symbol)).Nodup)
    {id id' symbol : String} (h : symbol ∈ sheetSymbol? tables id)
    (h' : symbol ∈ sheetSymbol? tables id') : id = id' := by
  obtain ⟨sheet, hsheet, rfl⟩ := Option.map_eq_some_iff.mp h
  obtain ⟨sheet', hsheet', heq⟩ := Option.map_eq_some_iff.mp h'
  have hsame := List.inj_on_of_nodup_map hnodup (List.mem_of_find?_eq_some hsheet')
    (List.mem_of_find?_eq_some hsheet) heq
  rw [Tables.Sprites.get?] at hsheet hsheet'
  have hid : sheet.id = id := by simpa using List.find?_some hsheet
  rw [← hid, ← hsame]
  simpa using List.find?_some hsheet'

/-- The fields about arrays follow ten others. -/
lemma body_sceneTable (entry : SceneEntry) (type : Nat) (parts : SceneParts) :
    (sceneTable entry type parts).body = (sceneTable entry type parts).body.take 10 ++
      [numberField "n_actors" entry.actors.length, numberField "n_triggers" entry.triggers.length,
        numberField "n_sprites" (if parts.sprites.isSome then entry.sprites.length else 0),
        numberField "n_projectiles" entry.projectiles.length, pointerField "actors" parts.actors,
        pointerField "triggers" parts.triggers, pointerField "sprites" parts.sprites,
        pointerField "projectiles" parts.projectiles] ++
      (sceneTable entry type parts).body.drop 18 :=
  rfl

/-- The arrays and the table of a scene are among its tables, and they agree. -/
lemma agree_sceneArrays {scope : Scope} {scripts : List Compiled} {tables : Tables}
    {project : Project} {limits : Platform.Limits} {entry : SceneEntry} {own : SceneScripts}
    (hbuilt : Built ⟨project, limits, tables.backgrounds, tables.sprites⟩ entry)
    (hemitted : SceneEmitted scope scripts entry own)
    (hsheets : (tables.sprites.entries.map (·.symbol)).Nodup) (types : List String) :
    ∃ type parts, sceneTables tables types entry own =
        collisionsTable entry ::
          ((sceneArrays tables entry own).tables ++ [sceneTable entry type parts]) ∧
      (sceneArrays tables entry own).Agree scope scripts limits tables
        (sceneTable entry type parts) := by
  obtain ⟨shown, hsprites⟩ := hbuilt.sprites
  have hnodup : entry.sprites.Nodup := hsprites ▸ FirstOccurrence.nodup_eraseDups _
  have hsome : ∀ id ∈ entry.sprites, (sheetSymbol? tables id).isSome = true := by
    intro id hid
    rw [hsprites, Tables.loadedSprites, List.mem_eraseDups, List.mem_filter] at hid
    rw [sheetSymbol?, Option.isSome_map]
    exact hid.2
  have hfound := forall₂_filterMap hsome
  -- without a table there are no sheets to count
  have hcount : (if ((spritesTable? tables entry).map (·.symbol)).isSome then entry.sprites.length
      else 0) = (sceneArrays tables entry own).sprites.entries.length := by
    have hlength : (sceneArrays tables entry own).sprites.entries.length = entry.sprites.length :=
      (List.length_map _).trans hfound.length_eq.symm
    split_ifs with htable
    · exact hlength.symm
    · rw [Option.isSome_map, Option.not_isSome_iff_eq_none] at htable
      exact ((sceneArrays tables entry own).sprites.none_iff.mp htable).symm
  have hactors : (sceneArrays tables entry own).actors.entries.length = entry.actors.length := by
    simp [sceneArrays]
  have htriggers : (sceneArrays tables entry own).triggers.entries.length =
      entry.triggers.length := by
    simp [sceneArrays]
  have hprojectiles : (sceneArrays tables entry own).projectiles.entries.length =
      entry.projectiles.length := List.length_map _
  refine ⟨_, _, by rw [SceneArrays.tables, sceneTables]; rfl, ?_⟩
  exact {
    fields := by
      rw [hactors, htriggers, hprojectiles, ← hcount]
      exact ⟨_, _, body_sceneTable _ _ _⟩
    actors_le := by
      rw [hactors, ← List.length_map, hbuilt.actors]
      exact (List.length_filter_le _ _).trans (List.length_take_le _ _)
    triggers_le := by
      rw [htriggers, ← List.length_map, hbuilt.triggers]
      exact (List.length_filter_le _ _).trans (List.length_take_le _ _)
    projectiles_le := by
      rw [hprojectiles, hbuilt.projectiles]
      exact List.length_take_le _ _
    nodup_sprites := (hnodup.filterMap fun _ _ _ h h' => eq_of_sheetSymbol? hsheets h h').map
      fun _ _ heq => by simpa [sheetLines] using heq
    actors := forall₂_zipIdx_map fun i actor hactor => ⟨_, _, rfl,
      related_scriptAt hemitted.actors hactor, related_scriptAt hemitted.updates hactor⟩
    triggers := forall₂_zipIdx_map fun i trigger htrigger => ⟨_, rfl,
      related_scriptAt hemitted.triggers htrigger⟩
    sprites := List.forall₂_map_right_iff.mpr (hfound.imp fun _ sheet h => ⟨sheet, h, rfl⟩)
    projectiles := rfl }

/-! ## The texts of arrays -/

/-- Splitting the text of lines at its line ends gives the lines back, one for one. -/
def ReadsBack (lines : List Line) : Prop :=
  Text.splitAt '\n' (renderLines lines) = lines.map lineText ++ [""]

/-- The texts in a line have no line end in them. -/
def OneLine (pieces : Line) : Prop :=
  ∀ text, Piece.text text ∈ pieces → '\n' ∉ text.toList

lemma newline_not_mem_hexByte (n : Nat) : '\n' ∉ (hexByte n).toList := by
  have hgo : ∀ k n digits, '\n' ∉ digits → '\n' ∉ Text.hexPadded.go k n digits := by
    intro k
    induction k with
    | zero => exact fun _ _ h => h
    | succ k ih =>
      intro n digits h
      have hdigit : ∀ d < 16, '\n' ≠ Text.hexChar true d := by decide
      exact ih _ _ (List.not_mem_cons_of_ne_of_not_mem (hdigit _ (Nat.mod_lt _ (by decide))) h)
  rw [hexByte, Text.not_mem_toList_append]
  refine ⟨by decide, ?_⟩
  rw [Text.hexPadded, String.toList_ofList, List.mem_append, not_or]
  refine ⟨fun h => absurd (List.eq_of_mem_replicate h) (by decide), ?_⟩
  split_ifs
  · exact List.not_mem_nil
  · exact hgo _ _ _ List.not_mem_nil

lemma newline_not_mem_pointer {symbol : Option String} (h : ∀ name ∈ symbol, IsPlain name) :
    '\n' ∉ (Piece.pointer symbol).render.toList := by
  cases symbol with
  | none => decide
  | some name =>
    show '\n' ∉ ("TO_FAR_PTR_T(" ++ name ++ ")").toList
    rw [Text.not_mem_toList_append, Text.not_mem_toList_append]
    exact ⟨⟨by decide, (isLine_of_isPlain (h name rfl)).newline⟩, by decide⟩

/-- Only the texts of a body can break a line, since what it points to has a plain name. -/
lemma readsBack_iff_of_tidy {table : Table} (htidy : table.Tidy)
    (hplain : ∀ name ∈ table.headers ++ table.helpers, IsPlain name) :
    ReadsBack table.body ↔ ∀ pieces ∈ table.body, OneLine pieces := by
  rw [ReadsBack, renderLines_eq_join, Text.splitAt_join_iff, List.forall_mem_map]
  refine forall₂_congr fun pieces hpieces => ?_
  have hrender : '\n' ∉ (lineText pieces).toList ↔
      ∀ piece ∈ pieces, '\n' ∉ piece.render.toList := by
    simp [lineText, String.toList_join]
  rw [hrender]
  refine ⟨fun h text htext => h _ htext, fun h piece hpiece => ?_⟩
  rcases (htidy pieces hpieces).text_or_pointer hpiece with ⟨text, rfl⟩ | ⟨symbol, rfl, hsymbol⟩
  · exact h text hpiece
  · exact newline_not_mem_pointer fun name hname => hplain name (hsymbol name hname)

section

variable {tables : Tables} {script update : Option String}

/-- The text in the remark of an actor. -/
def shownName (actor : Project.Actor) : String :=
  if actor.name = "" then actor.id else actor.name

lemma newline_not_mem_integerText (n : Int) : '\n' ∉ (integerText n).toList :=
  (isNumeral_integerText n).isLine.newline

lemma oneLine_actorLines {actor : Project.Actor} :
    (∀ pieces ∈ actorLines tables actor script update, OneLine pieces) ↔
      '\n' ∉ (shownName actor).toList := by
  have hdirection : '\n' ∉ (directionName actor.direction).toList := by
    rw [directionName]
    split_ifs <;> decide
  simp [actorLines, OneLine, line, shownName, newline_not_mem_integerText, newline_not_mem_hexByte,
    hdirection]

lemma oneLine_triggerLines {trigger : Project.Trigger} :
    ∀ pieces ∈ triggerLines trigger script, OneLine pieces := by
  simp [triggerLines, OneLine, line, newline_not_mem_integerText, newline_not_mem_decimal]

lemma oneLine_number (field : String) (h : '\n' ∉ field.toList) (n : Nat) :
    OneLine (line (field ++ decimal n ++ ",")) := by
  simp [OneLine, line, h, newline_not_mem_decimal]

lemma oneLine_projectileLines {projectile : Tables.Projectile} :
    ∀ pieces ∈ projectileLines tables projectile, OneLine pieces := by
  -- the numbers are left alone, as the kernel cannot count up to the bound of a life time
  have hspeed := oneLine_number "        .move_speed = " (by decide)
    (min (wordArg projectile.args "speed" 2) 255).toNat
  have htime := oneLine_number "        .life_time = " (by decide)
    (lifeTime projectile.args).number.toNat
  simp only [projectileLines, List.forall_mem_cons, hspeed, htime]
  simp [OneLine, line, newline_not_mem_hexByte]

lemma oneLine_sheetLines {sheet : String} : ∀ pieces ∈ sheetLines sheet, OneLine pieces := by
  simp [sheetLines, OneLine]

lemma oneLine_sceneTable {entry : SceneEntry} (hsymbol : '\n' ∉ entry.symbol.toList) (type : Nat)
    (parts : SceneParts) : ∀ pieces ∈ (sceneTable entry type parts).body, OneLine pieces := by
  simp [sceneTable, OneLine, line, numberField, pointerField, newline_not_mem_decimal, hsymbol]

/-- The lines around the entries are harmless. -/
lemma EntryArray.oneLine_iff {opening symbol : String} (array : EntryArray opening symbol)
    (hopening : '\n' ∉ opening.toList) (hsymbol : '\n' ∉ symbol.toList) {whole : Table}
    (hwhole : whole ∈ array.table) :
    (∀ pieces ∈ whole.body, OneLine pieces) ↔
      ∀ lines ∈ array.entries, ∀ pieces ∈ lines, OneLine pieces := by
  rw [(array.layout whole hwhole).2]
  have hfirst : OneLine (line (opening ++ symbol ++ "[] = \x7b")) := by
    simp [OneLine, line, hopening, hsymbol]
  have hlast : OneLine (line "\x7d;") := by
    simp [OneLine, line]
  rw [List.cons_append, List.forall_mem_cons, List.forall_mem_append, List.forall_mem_singleton,
    List.forall_mem_flatten, and_iff_right hfirst, and_iff_left hlast]

end

/-- Among the tables of a scene only that of its actors can be broken. -/
lemma readsBack_sceneArrays {tables : Tables} {types : List String} {entry : SceneEntry}
    {own : SceneScripts} {type : Nat} {parts : SceneParts}
    (heq : sceneTables tables types entry own = collisionsTable entry ::
      ((sceneArrays tables entry own).tables ++ [sceneTable entry type parts]))
    (hplain : ∀ table ∈ sceneTables tables types entry own, IsPlain table.symbol ∧
      ∀ name ∈ table.headers, IsPlain name) :
    (∀ table ∈ (sceneArrays tables entry own).actors.table, (ReadsBack table.body ↔
        ∀ actor ∈ entry.actors, '\n' ∉ (shownName actor.entity).toList)) ∧
      ∀ table ∈ (sceneArrays tables entry own).triggers.table.toList ++
        (sceneArrays tables entry own).sprites.table.toList ++
        (sceneArrays tables entry own).projectiles.table.toList ++ [sceneTable entry type parts],
        ReadsBack table.body := by
  have hreads : ∀ table ∈ sceneTables tables types entry own,
      (ReadsBack table.body ↔ ∀ pieces ∈ table.body, OneLine pieces) := by
    intro table htable
    refine readsBack_iff_of_tidy (tidy_sceneTables table htable) fun name hname => ?_
    rw [helpers_sceneTables table htable, List.append_nil] at hname
    exact (hplain table htable).2 name hname
  rw [heq] at hreads hplain
  have hsymbol : '\n' ∉ entry.symbol.toList :=
    (isLine_of_isPlain (hplain (sceneTable entry type parts) (by simp)).1).newline
  have hpart : ∀ suffix : String, '\n' ∉ suffix.toList → '\n' ∉ (entry.symbol ++ suffix).toList :=
    fun suffix hsuffix => Text.not_mem_toList_append.mpr ⟨hsymbol, hsuffix⟩
  simp only [SceneArrays.tables, List.forall_mem_cons, List.forall_mem_append, Option.mem_toList,
    List.not_mem_nil, false_imp_iff, implies_true, and_true] at hreads ⊢
  obtain ⟨-, ⟨⟨⟨hactors, htriggers⟩, hsprites⟩, hprojectiles⟩, hscene⟩ := hreads
  refine ⟨fun table htable => ?_, ⟨⟨fun table htable => ?_, fun table htable => ?_⟩,
    fun table htable => ?_⟩, hscene.mpr (oneLine_sceneTable hsymbol type parts)⟩
  · rw [hactors table htable, EntryArray.oneLine_iff _ (by decide) (hpart _ (by decide)) htable]
    simp only [sceneArrays, List.forall_mem_map, oneLine_actorLines]
    nth_rewrite 2 [← List.zipIdx_map_fst 0 entry.actors]
    rw [List.forall_mem_map]
  · rw [htriggers table htable, EntryArray.oneLine_iff _ (by decide) (hpart _ (by decide)) htable]
    exact List.forall_mem_map.mpr fun _ _ => oneLine_triggerLines
  · rw [hsprites table htable, EntryArray.oneLine_iff _ (by decide) (hpart _ (by decide)) htable]
    exact List.forall_mem_map.mpr fun _ _ => oneLine_sheetLines
  · rw [hprojectiles table htable,
      EntryArray.oneLine_iff _ (by decide) (hpart _ (by decide)) htable]
    exact List.forall_mem_map.mpr fun _ _ => oneLine_projectileLines

/-- The tables of a scene have plain names and include headers with plain names. -/
lemma isPlain_sceneTables (data : Source.Input) {scripts : List String}
    (hlinked : ∀ name, Linked data scripts name → IsPlain name) {entry : SceneEntry}
    {own : SceneScripts} (hentry : (entry, own) ∈ data.tables.scenes.zip data.scripts)
    (hscripts : own.symbols ⊆ scripts) :
    ∀ table ∈ sceneTables data.tables data.usedTypes entry own, IsPlain table.symbol ∧
      ∀ name ∈ table.headers, IsPlain name := by
  intro table htable
  have hmem : table ∈ allSceneTables data := List.mem_flatMap.mpr ⟨(entry, own), hentry, htable⟩
  exact ⟨hlinked _ (.inr (.inl (mem_ownStems_of_scene hmem))), fun name hname =>
    hlinked name (linked_sceneTables hentry hscripts table htable name hname)⟩

/-! ## Compiled projects -/

section

variable {input : Tables.Input} {reporter : Reporter} {tree : FileTree} {scripted : Scripted}

lemma isPlain_of_linked (hok : (compileScripts input reporter tree).result = .ok scripted)
    {usedTypes : List String} {knownTypes : List Template.SceneType} {name : String}
    (h : Linked (scripted.sourceInput input.project usedTypes knownTypes)
      (scripted.scripts.map Compiled.symbol) name) : IsPlain name := by
  obtain ⟨names, -, hplain, hown, -⟩ := exists_taken hok usedTypes knownTypes
  rcases h with hscript | hstem | hpalette
  · exact hplain name (hown.subset (List.mem_append_right _ hscript))
  · exact hplain name (hown.subset (List.mem_append_left _ hstem))
  · obtain ⟨n, -, rfl⟩ := List.mem_map.mp hpalette
    exact IsPlain.numbered (by decide : "palette".toList.all isPlainChar = true) n

lemma nodup_sheets (hok : (compileScripts input reporter tree).result = .ok scripted) :
    (scripted.tables.sprites.entries.map (·.symbol)).Nodup := by
  obtain ⟨names, hnodup, -, hown, -⟩ := exists_taken hok [] []
  have hsheets : (scripted.tables.sprites.entries.map (·.symbol)).Sublist
      (ownStems (scripted.sourceInput input.project [] [])) :=
    (List.sublist_append_right _ _).trans
      ((List.sublist_append_left _ _).trans (List.sublist_append_right _ _))
  exact nodup_of_subperm
    (hsheets.subperm.trans ((List.sublist_append_left _ _).subperm.trans hown)) hnodup

/-- **Scene tables agree with their arrays.**  Every scene of a compiled project has its table and
the arrays of its actors, triggers, sprite sheets and projectiles, each in a file of its own.  The
scene tells the number of entries of each array and points to it, or to nothing when there is no
entry.  The numbers are within the limits of the platform, no sprite sheet is there twice, and the
scripts in the entry of an actor or a trigger are those compiled from it, with nothing exactly where
nothing is to run.

In the text of a file the lines of the triggers, the sprite sheets, the projectiles and the scene
are always read back one for one.  Those of the actors are so exactly when no name of an actor has a
line end in it. -/
theorem scene_arrays_agree (hok : (compileScripts input reporter tree).result = .ok scripted)
    (usedTypes : List String) (knownTypes : List Template.SceneType) :
    scripted.tables.scenes.map (·.scene) = input.project.scenes ∧
      scripted.scenes.length = scripted.tables.scenes.length ∧
      ∀ entry own, (entry, own) ∈ scripted.tables.scenes.zip scripted.scenes →
        ∃ (arrays : SceneArrays entry) (scene : Table),
          sceneTables scripted.tables usedTypes entry own =
            collisionsTable entry :: (arrays.tables ++ [scene]) ∧
          (∀ table ∈ sceneTables scripted.tables usedTypes entry own,
            ∃ file ∈ scripted.files input.project usedTypes knownTypes,
              file.name = table.symbol ++ ".c" ∧ table.body <:+ file.lines) ∧
          arrays.Agree (scripted.scope input) scripted.scripts input.platform.limits
            scripted.tables scene ∧
          (∀ table ∈ arrays.actors.table, (ReadsBack table.body ↔
            ∀ actor ∈ entry.actors, '\n' ∉ (shownName actor.entity).toList)) ∧
          ∀ table ∈ arrays.triggers.table.toList ++ arrays.sprites.table.toList ++
            arrays.projectiles.table.toList ++ [scene], ReadsBack table.body := by
  obtain ⟨symbols, htables, -⟩ := compileScripts_stages hok
  obtain ⟨hscenes, hbuilt⟩ := Tables.built_of_build htables
  obtain ⟨hlength, hemitted⟩ := List.forall₂_iff_zip.mp (emitted_of_compileScripts hok)
  refine ⟨hscenes, hlength.symm, fun entry own hentry => ?_⟩
  obtain ⟨type, parts, heq, hagree⟩ := agree_sceneArrays
    (hbuilt entry (List.of_mem_zip hentry).1) (hemitted hentry) (nodup_sheets hok) usedTypes
  have hmem : ∀ table ∈ sceneTables scripted.tables usedTypes entry own,
      table ∈ allSceneTables (scripted.sourceInput input.project usedTypes knownTypes) :=
    fun table htable => List.mem_flatMap.mpr ⟨(entry, own), hentry, htable⟩
  have hplain := isPlain_sceneTables (scripted.sourceInput input.project usedTypes knownTypes)
    (fun name => isPlain_of_linked hok) hentry (hemitted hentry).symbols_subset
  obtain ⟨hactors, hothers⟩ := readsBack_sceneArrays heq hplain
  refine ⟨sceneArrays scripted.tables entry own, sceneTable entry type parts, heq, ?_, hagree,
    hactors, hothers⟩
  intro table htable
  obtain ⟨file, hfile, hname, hbody⟩ := source_mem_dataFiles
    (List.mem_append_left _ (List.mem_append_right _ (hmem table htable)))
  exact ⟨file, List.mem_append_right _ hfile, hname, hbody⟩

end

/-! ## Names of actors -/

/-- A project with one actor, who has the given name. -/
def actorInput (name : String) : Tables.Input :=
  let input := loneInput copyEvent
  let actor : Project.Actor :=
    { name := name, spriteSheetId := "person", script := [copyEvent] }
  { input with
    project :=
      { input.project with
        scenes := [{ loneScene copyEvent with actors := [actor] }]
        sprites := [{ id := "person", name := "person" }] } }

/-- The array of the only actor has one entry, and its text is read back. -/
theorem scene_arrays_agree_bob :
    ∃ scripted, (compileScripts (actorInput "Bob") {} {}).result = .ok scripted ∧
      ∃ entry own, (entry, own) ∈ scripted.tables.scenes.zip scripted.scenes ∧
        ∃ (arrays : SceneArrays entry) (scene : Table),
          sceneTables scripted.tables [] entry own =
            collisionsTable entry :: (arrays.tables ++ [scene]) ∧
          arrays.Agree (scripted.scope (actorInput "Bob")) scripted.scripts
            Platform.gameBoy.limits scripted.tables scene ∧
          arrays.actors.entries.length = 1 ∧
          ∃ table, arrays.actors.table = some table ∧ ReadsBack table.body := by
  obtain ⟨scripted, hok, hcheck⟩ : ∃ scripted,
      (compileScripts (actorInput "Bob") {} {}).result = .ok scripted ∧
        decide (∃ pair ∈ scripted.tables.scenes.zip scripted.scenes,
          pair.1.actors.map (fun actor => shownName actor.entity) = ["Bob"]) = true :=
    exists_ok_of_check (by decide +kernel)
  obtain ⟨⟨entry, own⟩, hentry, hnames⟩ := of_decide_eq_true hcheck
  obtain ⟨-, -, hscenes⟩ := scene_arrays_agree hok [] []
  obtain ⟨arrays, scene, htables, -, hagree, hactors, -⟩ := hscenes entry own hentry
  have hone : arrays.actors.entries.length = 1 := by
    have hlength := congrArg List.length hnames
    rw [List.length_map] at hlength
    exact hagree.actors.length_eq.symm.trans hlength
  obtain ⟨table, htable⟩ := Option.ne_none_iff_exists'.mp fun hnone =>
    absurd (arrays.actors.none_iff.mp hnone) (by rw [hone]; decide)
  refine ⟨scripted, hok, entry, own, hentry, arrays, scene, htables, hagree, hone, table, htable,
    (hactors table htable).mpr ?_⟩
  have hplain : ∀ name ∈ entry.actors.map fun actor => shownName actor.entity,
      '\n' ∉ name.toList := by
    rw [hnames]
    decide
  exact fun actor hactor => hplain _ (List.mem_map_of_mem hactor)

lemma count_le_splitAt {lines body : List Line} (h : lines.Sublist body) (text : String) :
    ((lines.map lineText).flatMap (Text.splitAt '\n')).count text ≤
      (Text.splitAt '\n' (renderLines body)).count text := by
  rw [renderLines_eq_join, Text.splitAt_join, List.count_append]
  exact Nat.le_add_right_of_le (((h.map lineText).flatMap _).count_le text)

/-- A name that closes the entry of its actor and opens another one adds an entry to the array,
which the scene does not count. -/
theorem name_adds_actor :
    ∃ scripted, (compileScripts (actorInput "Bob\n    \x7d,\n    \x7b") {} {}).result =
        .ok scripted ∧
      ∃ entry own, (entry, own) ∈ scripted.tables.scenes.zip scripted.scenes ∧
        ∃ scene ∈ sceneTables scripted.tables [] entry own,
        ∃ actors ∈ actorsTable? scripted.tables entry own,
          numberField "n_actors" 1 ∈ scene.body ∧
          2 ≤ (Text.splitAt '\n' (renderLines actors.body)).count "    \x7b" := by
  obtain ⟨scripted, hok, hcheck⟩ : ∃ scripted,
      (compileScripts (actorInput "Bob\n    \x7d,\n    \x7b") {} {}).result = .ok scripted ∧
        decide (∃ pair ∈ scripted.tables.scenes.zip scripted.scenes,
          pair.1.actors.map (fun actor => shownName actor.entity) =
            ["Bob\n    \x7d,\n    \x7b"]) = true :=
    exists_ok_of_check (by decide +kernel)
  obtain ⟨⟨entry, own⟩, hentry, hnames⟩ := of_decide_eq_true hcheck
  obtain ⟨actor, hactors, hname⟩ := List.map_eq_singleton_iff.mp hnames
  dsimp only at hactors
  refine ⟨scripted, hok, entry, own, hentry, _, List.mem_append_right _ (List.mem_singleton_self _),
    _, if_neg (by simp [hactors]), by simp [sceneTable, hactors], ?_⟩
  -- the first lines of the only entry are enough
  have hlines : List.Sublist [line "    \x7b", line ("        // " ++ shownName actor.entity)]
      (entry.actors.zipIdx.flatMap fun pair => actorLines scripted.tables pair.1.entity
        (scriptAt own.actors pair.2) (scriptAt own.updates pair.2)) := by
    rw [hactors]
    exact .cons_cons _ (.cons_cons _ (List.nil_sublist _))
  rw [hname] at hlines
  refine Nat.le_trans ?_ (count_le_splitAt (hlines.trans ((List.sublist_cons_self _ _).trans
    (List.sublist_append_left _ _))) _)
  decide +kernel

end Cartridge.Compile
