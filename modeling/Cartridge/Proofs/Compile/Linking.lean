import Cartridge.Proofs.Compile.FileNames
import Cartridge.Proofs.Source.Definitions

/-!
# Nothing in the generated files leads nowhere

Files include headers and point to symbols.  Where a scene has the symbol of a script, the script
was compiled (`emitted_compileScenes`), and everything else that tables refer to is in the tables.
So headers are files (`header_mem_names`), and what is pointed to is defined (`defined_target`).

A symbol is defined by one file only if one side defines it: the files of what was handed out never
define a symbol twice, and neither do those of what the generator makes up.  But palettes and the
pictures of avatar fonts are made up without asking, and sounds lie in a folder of their own.  So a
sound that is called like a palette clashes with no file, and the palette has two definitions
(`palette_defined_twice`).
-/

namespace Cartridge.Compile

open Cartridge.Files (FileTree)
open Cartridge.Script
open Cartridge.Source
open Cartridge.Symbol
open Cartridge.Tables (SceneEntry Placed Complete Resolves buildPalettes complete_build
  palettes_build)

/-! ## The scripts of scenes -/

section

variable (scope : Scope)

/-- The symbol is the one handed out for the request, and the script that was compiled from the
request is there under it; or there is no symbol because the request has nothing to run. -/
structure Emitted (scripts : List Compiled) (request : Request) (symbol : Option String) :
    Prop where
  none_iff : symbol = none ↔ request.isSkipped = true
  script : ∀ name ∈ symbol, ∃ session, name = (request.allocate session).1 ∧
    entityScript request name (lowerScript scope maxNesting request.events
      { session with symbols := (request.allocate session).2 }).1 ∈ scripts

variable {scope}

lemma compiled_subset_of_moves {requests : List Request} {p q : Progress}
    (h : Moves scope requests p q) : p.session.compiled ⊆ q.session.compiled := by
  induction h with
  | refl => exact List.Subset.refl _
  | tail _ hmove ih =>
    cases hmove with
    | finish => exact List.subset_append_of_subset_left _ ih
    | _ => exact ih

lemma Emitted.mono {scripts later : List Compiled} {request : Request} {symbol : Option String}
    (h : Emitted scope scripts request symbol) (hlater : scripts ⊆ later) :
    Emitted scope later request symbol :=
  ⟨h.none_iff, fun name hname => (h.script name hname).imp fun _ hscript =>
    ⟨hscript.1, hlater hscript.2⟩⟩

lemma Emitted.mem_symbols {scripts : List Compiled} {request : Request} {symbol : Option String}
    (h : Emitted scope scripts request symbol) {name : String} (hname : name ∈ symbol) :
    name ∈ scripts.map Compiled.symbol := by
  obtain ⟨_, -, hmem⟩ := h.script name hname
  exact List.mem_map.mpr ⟨_, hmem, rfl⟩

variable (scope)

lemma compiled_subset_compileAll (requests : List Request) (session : Session) :
    session.compiled ⊆ (compileAll scope requests session).compiled := by
  obtain ⟨_, hmoves, -⟩ := moves_compileAll (List.Subset.refl requests) session []
  exact compiled_subset_of_moves hmoves

lemma emitted_compileScript (request : Request) (session : Session) :
    Emitted scope (compileScript scope request session).2.compiled request
      (compileScript scope request session).1 := by
  cases hskipped : request.isSkipped with
  | true =>
    rw [compileScript_of_skipped hskipped]
    exact ⟨by simp [hskipped], by rintro _ ⟨⟩⟩
  | false =>
    rw [compileScript_of_not_skipped hskipped]
    refine ⟨by simp [hskipped], ?_⟩
    rintro _ ⟨⟩
    exact ⟨session, rfl, List.mem_append_right _ (List.mem_singleton_self _)⟩

/-- Each actor gets the scripts that are compiled from it. -/
lemma emitted_compileActors (actors : List (Placed Project.Actor)) (session : Session) :
    List.Forall₂ (fun actor pair =>
        Emitted scope (compileActors scope actors session).2.compiled (interactRequest actor)
            pair.1 ∧
          Emitted scope (compileActors scope actors session).2.compiled (updateRequest actor)
            pair.2)
      actors (compileActors scope actors session).1 := by
  induction actors generalizing session with
  | nil => exact .nil
  | cons actor rest ih =>
    rw [compileActors, compileUpdate_eq]
    dsimp only
    refine .cons ?_ (ih _)
    rw [compileActors_snd]
    have hupdate := (emitted_compileScript scope (updateRequest actor) session).mono
      (compiled_subset_compileAll scope [interactRequest actor] _)
    exact ⟨(emitted_compileScript scope (interactRequest actor) _).mono
      (compiled_subset_compileAll scope _ _), hupdate.mono (compiled_subset_compileAll scope _ _)⟩

lemma emitted_compileTriggers (triggers : List (Placed Project.Trigger)) (session : Session) :
    List.Forall₂ (fun trigger =>
        Emitted scope (compileTriggers scope triggers session).2.compiled (triggerRequest trigger))
      triggers (compileTriggers scope triggers session).1 := by
  induction triggers generalizing session with
  | nil => exact .nil
  | cons trigger rest ih =>
    rw [compileTriggers]
    refine .cons ?_ (ih _)
    rw [compileTriggers_snd]
    exact (emitted_compileScript scope (triggerRequest trigger) session).mono
      (compiled_subset_compileAll scope _ _)

lemma mem_symbols_of_emitted {α : Type} {scripts : List Compiled} {request : α → Request}
    {items : List α} {symbols : List (Option String)}
    (h : List.Forall₂ (fun item => Emitted scope scripts (request item)) items symbols) :
    ∀ name ∈ symbols.filterMap id, name ∈ scripts.map Compiled.symbol := by
  intro name hname
  obtain ⟨symbol, hsymbol, rfl⟩ := List.mem_filterMap.mp hname
  exact forall_mem_of_forall₂ (fun _ _ hemitted name hname => hemitted.mem_symbols hname) h _
    hsymbol name rfl

/-- The scripts of a scene are compiled from the scene and from its actors and triggers, one by
one. -/
structure SceneEmitted (scripts : List Compiled) (entry : SceneEntry) (own : SceneScripts) :
    Prop where
  init : Emitted scope scripts (startRequest scope entry) own.init
  playerHit : Emitted scope scripts (playerHitRequest entry) own.playerHit
  actors : List.Forall₂ (fun actor => Emitted scope scripts (interactRequest actor)) entry.actors
    own.actors
  updates : List.Forall₂ (fun actor => Emitted scope scripts (updateRequest actor)) entry.actors
    own.updates
  triggers : List.Forall₂ (fun trigger => Emitted scope scripts (triggerRequest trigger))
    entry.triggers own.triggers

variable {scope} in
lemma SceneEmitted.symbols_subset {scripts : List Compiled} {entry : SceneEntry}
    {own : SceneScripts} (h : SceneEmitted scope scripts entry own) :
    own.symbols ⊆ scripts.map Compiled.symbol := by
  refine List.forall_mem_append.mpr ⟨List.forall_mem_append.mpr ⟨List.forall_mem_append.mpr
    ⟨List.forall_mem_append.mpr ⟨?_, ?_⟩, ?_⟩, ?_⟩, ?_⟩
  · exact fun name hname => h.init.mem_symbols (Option.mem_toList.mp hname)
  · exact fun name hname => h.playerHit.mem_symbols (Option.mem_toList.mp hname)
  · exact mem_symbols_of_emitted scope h.actors
  · exact mem_symbols_of_emitted scope h.updates
  · exact mem_symbols_of_emitted scope h.triggers

lemma emitted_compileScene (entry : SceneEntry) {session : Session} {later : List Compiled}
    (hlater : (compileScene scope entry session).2.compiled ⊆ later) :
    SceneEmitted scope later entry (compileScene scope entry session).1 := by
  rw [compileScene] at hlater ⊢
  dsimp only at hlater ⊢
  -- the session grows from part to part
  have htriggers := List.Subset.trans (compileTriggers_snd scope entry.triggers _ ▸
    compiled_subset_compileAll scope _ _) hlater
  have hactors := List.Subset.trans (compileActors_snd scope entry.actors _ ▸
    compiled_subset_compileAll scope _ _) htriggers
  have hhit := List.Subset.trans (compiled_subset_compileAll scope [playerHitRequest entry] _)
    hactors
  have hpairs := emitted_compileActors scope entry.actors
    (compilePlayerHit scope entry (compileStart scope entry session).2).2
  exact {
    init := (emitted_compileScript scope (startRequest scope entry) session).mono hhit
    playerHit := (emitted_compileScript scope (playerHitRequest entry) _).mono hactors
    actors := List.forall₂_map_right_iff.mpr (hpairs.imp fun _ _ h => h.1.mono htriggers)
    updates := List.forall₂_map_right_iff.mpr (hpairs.imp fun _ _ h => h.2.mono htriggers)
    triggers := (emitted_compileTriggers scope entry.triggers _).imp fun _ _ h => h.mono hlater }

lemma emitted_compileScenes (entries : List SceneEntry) (session : Session) :
    List.Forall₂ (SceneEmitted scope (compileScenes scope entries session).2.compiled) entries
      (compileScenes scope entries session).1 := by
  induction entries generalizing session with
  | nil => exact .nil
  | cons entry rest ih =>
    rw [compileScenes]
    refine .cons (emitted_compileScene scope entry ?_) (ih _)
    rw [compileScenes_snd]
    exact compiled_subset_compileAll scope _ _

end

section

variable {input : Tables.Input} {reporter : Reporter} {tree : FileTree} {scripted : Scripted}
  {usedTypes : List String} {knownTypes : List Template.SceneType}

section

variable (hok : (compileScripts input reporter tree).result = .ok scripted)

include hok

lemma emitted_of_compileScripts :
    List.Forall₂ (SceneEmitted (scripted.scope input) scripted.scripts) scripted.tables.scenes
      scripted.scenes := by
  obtain ⟨symbols, -, -, hscenes, hscripts⟩ := compileScripts_stages hok
  rw [hscenes, hscripts]
  exact emitted_compileScenes _ _ _

lemma symbols_of_compileScripts :
    scripted.tables.scenes.length ≤ scripted.scenes.length ∧
      ∀ own ∈ scripted.scenes, own.symbols ⊆ scripted.scripts.map Compiled.symbol := by
  have hemitted := emitted_of_compileScripts hok
  exact ⟨Nat.le_of_eq hemitted.length_eq,
    forall_mem_of_forall₂ (fun _ _ h => h.symbols_subset) hemitted⟩

lemma palettes_of_compileScripts :
    scripted.tables.palettes = buildPalettes input.project scripted.tables.backgrounds := by
  obtain ⟨symbols, htables, -⟩ := compileScripts_stages hok
  exact palettes_build htables

lemma complete_of_compileScripts : Complete scripted.tables := by
  obtain ⟨symbols, htables, -⟩ := compileScripts_stages hok
  exact complete_build htables

end

/-! ## Headers -/

variable {file : File}

lemma header_mem_names (hok : (compileScripts input reporter tree).result = .ok scripted)
    (hfile : file ∈ scripted.files input.project usedTypes knownTypes) {header : String}
    (hheader : header ∈ file.includes) :
    header ++ ".h" ∈ (scripted.files input.project usedTypes knownTypes).map File.name := by
  obtain ⟨hlength, hsymbols⟩ := symbols_of_compileScripts hok
  have hlinked : Linked (scripted.sourceInput input.project usedTypes knownTypes)
      (scripted.scripts.map Compiled.symbol) header ∨ header ∈ fixedHeaders := by
    rcases List.mem_append.mp hfile with hscript | hdata
    · obtain ⟨script, -, hscript⟩ := List.mem_flatMap.mp hscript
      cases (refers_scriptFiles hscript).mem_headers hheader
    · exact includes_dataFiles (complete_of_compileScripts hok) hsymbols hlength hdata hheader
  have houtput : ∃ endings, (header, endings) ∈
      scripted.ownOutputs input.project usedTypes knownTypes ++ reserved scripted.tables ∧
        'h' ∈ endings := by
    rcases hlinked with (hscript | hown | hpalette) | hfixed
    · refine ⟨['s', 'h'], List.mem_append_left _ (List.mem_append_left _ ?_), by decide⟩
      exact List.mem_map.mpr ⟨header, hscript, rfl⟩
    · refine ⟨['c', 'h'], List.mem_append_left _ (List.mem_append_right _ ?_), by decide⟩
      exact List.mem_map.mpr ⟨header, List.mem_append_left _ hown, rfl⟩
    · refine ⟨['c', 'h'], List.mem_append_right _ (List.mem_append_left _ ?_), by decide⟩
      refine List.mem_map.mpr ⟨header, ?_, rfl⟩
      exact List.mem_append_left _ (List.mem_append_left _ hpalette)
    · obtain ⟨endings, houtput, hending⟩ :=
        exists_output_of_mem_fixedHeaders scripted.tables hfixed
      exact ⟨endings, List.mem_append_right _ houtput, hending⟩
  rw [(scripted.names_files input.project usedTypes knownTypes).mem_iff, ← outputNames_append]
  exact mem_outputNames.mpr houtput

/-! ## Definitions -/

lemma defines_files (hfile : file ∈ scripted.files input.project usedTypes knownTypes)
    {symbol : String} (hsymbol : symbol ≠ "game_signature") :
    file.Defines symbol ↔ symbol ∈ file.defines := by
  rcases List.mem_append.mp hfile with hscript | hdata
  · obtain ⟨script, -, hfile⟩ := List.mem_flatMap.mp hscript
    exact defines_scriptFiles hfile symbol
  · exact defines_dataFiles hdata hsymbol

lemma nodup_defines_files (hfile : file ∈ scripted.files input.project usedTypes knownTypes) :
    file.defines.Nodup := by
  rcases List.mem_append.mp hfile with hscript | hdata
  · obtain ⟨script, -, hfile⟩ := List.mem_flatMap.mp hscript
    rcases mem_scriptFiles.mp hfile with rfl | rfl
    · exact List.nodup_singleton _
    · exact List.nodup_nil
  · exact nodup_defines hdata

/-- Where no file defines a symbol twice, a symbol is defined as often as there are files that
define it. -/
lemma count_definitions {files : List File} (h : ∀ file ∈ files, file.defines.Nodup)
    (symbol : String) :
    (files.flatMap File.defines).count symbol =
      (files.filter fun file => symbol ∈ file.defines).length := by
  induction files with
  | nil => rfl
  | cons file rest ih =>
    obtain ⟨hfile, hrest⟩ := List.forall_mem_cons.mp h
    rw [List.flatMap_cons, List.count_append, ih hrest, List.filter_cons]
    by_cases hmem : symbol ∈ file.defines
    · rw [List.count_eq_one_of_mem hfile hmem, if_pos (decide_eq_true hmem), List.length_cons]
      omega
    · rw [List.count_eq_zero.mpr hmem, if_neg (by simpa using hmem)]
      omega

/-- A symbol is defined by exactly one file when it is defined once. -/
lemma existsUnique_iff_count {files : List File} (hfiles : files.Nodup)
    (h : ∀ file ∈ files, file.defines.Nodup) (symbol : String) :
    (∃! file, file ∈ files ∧ symbol ∈ file.defines) ↔
      (files.flatMap File.defines).count symbol = 1 := by
  have hmem : ∀ file, file ∈ files ∧ symbol ∈ file.defines ↔
      file ∈ files.filter fun file => symbol ∈ file.defines := by
    simp [List.mem_filter]
  have hnodup := hfiles.filter fun file => symbol ∈ file.defines
  rw [count_definitions h, List.length_eq_one_iff]
  simp only [hmem]
  constructor
  · rintro ⟨file, hfile, hunique⟩
    refine ⟨file, List.perm_singleton.mp ?_⟩
    rw [List.perm_ext_iff_of_nodup hnodup (List.nodup_singleton file)]
    intro other
    rw [List.mem_singleton]
    exact ⟨hunique other, fun heq => heq ▸ hfile⟩
  · rintro ⟨file, hfile⟩
    rw [hfile]
    exact ⟨file, List.mem_singleton_self file, fun other => List.mem_singleton.mp⟩

namespace Scripted

variable (scripted : Scripted) (project : Project) (usedTypes : List String)
  (knownTypes : List Template.SceneType)

/-- The symbols that files can point to and that were handed out. -/
def handedTargets : List String :=
  scripted.scripts.map Compiled.symbol ++
    (ownStems (scripted.sourceInput project usedTypes knownTypes) ++ fontBitmaps scripted.tables)

/-- Files define what was handed out, the sounds included, and what the generator makes up. -/
lemma definitions_files :
    ((scripted.files project usedTypes knownTypes).flatMap File.defines).Perm
      (scripted.handedTargets project usedTypes knownTypes ++
          scripted.tables.sounds.map (·.symbol) ++
        ownDefinitions scripted.tables) := by
  have hscripts : (scripted.scripts.flatMap scriptFiles).flatMap File.defines =
      scripted.scripts.map Compiled.symbol := by
    rw [List.flatMap_assoc, List.map_eq_flatMap]
    rfl
  have hdata := definitions_dataFiles (scripted.sourceInput project usedTypes knownTypes)
  rw [files, handedTargets, List.flatMap_append, hscripts]
  simp only [List.append_assoc] at hdata ⊢
  exact hdata.append_left _

end Scripted

/-- The symbols that files can point to and that the generator makes up. -/
def madeUpTargets (tables : Tables) : List String :=
  paletteSymbols tables ++ avatarBitmaps tables

lemma madeUpTargets_subset (tables : Tables) : madeUpTargets tables ⊆ ownDefinitions tables := by
  intro symbol hsymbol
  simp only [ownDefinitions, reservedTables, List.mem_append]
  rcases List.mem_append.mp hsymbol with hpalette | havatar
  · exact .inl (.inl (.inl (.inl hpalette)))
  · exact .inl (.inr havatar)

/-- Nothing that was handed out is defined twice. -/
lemma nodup_handedTargets (hok : (compileScripts input reporter tree).result = .ok scripted)
    (usedTypes : List String) (knownTypes : List Template.SceneType) :
    (scripted.handedTargets input.project usedTypes knownTypes ++
      scripted.tables.sounds.map (·.symbol)).Nodup := by
  obtain ⟨tasks, htasks, -, hnodup, -⟩ := exists_tasks_taken hok
  have hdefinitions := definitions_subperm
    (scripted.sourceInput input.project usedTypes knownTypes) (assembled_of_compileScripts hok)
  obtain ⟨symbols, hperm, hsublist⟩ := objects_subperm scripted.tables
  have hfamilies := (hperm.flatMap_right family).symm.subperm.trans
    (hsublist.flatMap family).subperm
  have htaken := (hdefinitions.trans hfamilies).append
    (map_sublist_flatMap Task.symbol_mem_taken tasks).subperm
  rw [Scripted.handedTargets, htasks, List.append_assoc]
  exact nodup_of_subperm (List.perm_append_comm.subperm.trans htaken) hnodup

lemma mem_targets (hok : (compileScripts input reporter tree).result = .ok scripted)
    {file : File} (hfile : file ∈ scripted.files input.project usedTypes knownTypes)
    {symbol : String} (hsymbol : symbol ∈ file.pointers) :
    symbol ∈ scripted.handedTargets input.project usedTypes knownTypes ∨
      symbol ∈ madeUpTargets scripted.tables := by
  obtain ⟨hlength, hsymbols⟩ := symbols_of_compileScripts hok
  simp only [Scripted.handedTargets, madeUpTargets, List.mem_append]
  rcases List.mem_append.mp hfile with hscript | hdata
  · obtain ⟨script, -, hscript⟩ := List.mem_flatMap.mp hscript
    cases (refers_scriptFiles hscript).mem_targets hsymbol
  · rcases pointers_dataFiles (complete_of_compileScripts hok) hsymbols hlength hdata hsymbol with
      (hscript | hown | hpalette) | hbitmaps
    · exact .inl (.inl hscript)
    · exact .inl (.inr (.inl hown))
    · exact .inr (.inl hpalette)
    · rcases List.mem_append.mp hbitmaps with hfont | havatar
      · exact .inl (.inr (.inr hfont))
      · exact .inr (.inr havatar)

/-! ## Handed out and made up -/

section

variable {set : FileSet} {symbol : String}

section

variable (hok : (compileScripts input reporter tree).result = .ok scripted)
  (hset : scripted.fileSet input.project usedTypes knownTypes = .ok set)

include hok hset

/-- When there is no clash of files, no object is called like a file of the generator. -/
lemma object_not_mem_reservedStems (hsymbol : symbol ∈ objectSymbols scripted.tables) :
    symbol ∉ reservedStems scripted.tables := by
  intro hreserved
  exact not_nodup_of_object hok hsymbol hreserved (scripted.files_of_fileSet _ _ _ hset).2

lemma handedTargets_not_mem_reservedStems
    (hsymbol : symbol ∈ scripted.handedTargets input.project usedTypes knownTypes) :
    symbol ∉ reservedStems scripted.tables := by
  intro hreserved
  simp only [Scripted.handedTargets, List.mem_append] at hsymbol
  rcases hsymbol with hmem | hown | hfont
  · obtain ⟨script, hscript, rfl⟩ := List.mem_map.mp hmem
    exact not_nodup_of_script hscript (symbol_eq_of_mem_reservedStems hok hscript hreserved)
      (scripted.files_of_fileSet _ _ _ hset).2
  · have hobject := mem_objectSymbols_of_mem_reservedStems (assembled_of_compileScripts hok) hown
      hreserved
    exact object_not_mem_reservedStems hok hset hobject hreserved
  · obtain ⟨font, -, rfl⟩ := List.mem_map.mp hfont
    exact companion_not_mem_reservedStems (by decide) font.symbol scripted.tables hreserved

/-- Only an object itself can be called like the pictures of an avatar font. -/
lemma mem_objectSymbols_of_mem_avatarBitmaps
    (hsymbol : symbol ∈ scripted.handedTargets input.project usedTypes knownTypes)
    (havatar : symbol ∈ avatarBitmaps scripted.tables) :
    symbol ∈ objectSymbols scripted.tables := by
  have hword := lastWord_of_mem_avatarBitmaps havatar
  -- the pictures of a font belong to it alone, so the font would have a reserved name
  have hbitmaps : ∀ name ∈ objectSymbols scripted.tables, symbol ≠ companion name "bitmaps" := by
    rintro name hname rfl
    exact object_not_mem_reservedStems hok hset hname (mem_reservedStems_of_avatarBitmaps havatar)
  simp only [Scripted.handedTargets, List.mem_append] at hsymbol
  rcases hsymbol with hmem | hown | hmem
  · obtain ⟨script, hscript, rfl⟩ := List.mem_map.mp hmem
    obtain ⟨task, hsymbol, hfound⟩ := exists_task_of_script hok hscript
    exact absurd (hsymbol ▸ hword) (task.lastWord_ne_bitmaps hfound)
  · obtain ⟨name, hname, hfamily⟩ := List.mem_flatMap.mp
      ((ownStems_subperm (assembled_of_compileScripts hok)).subset hown)
    rcases List.mem_cons.mp hfamily with rfl | hcompanion
    · exact hname
    · obtain ⟨suffix, hsuffix, rfl⟩ := List.mem_map.mp hcompanion
      have hwords : ∀ suffix ∈ companionSuffixes,
          lastWord suffix.toList = "bitmaps".toList → suffix = "bitmaps" := by decide
      have hlast : lastWord (companion name suffix).toList = "bitmaps".toList := hword
      rw [companion, lastWord_append] at hlast
      exact absurd (hwords suffix hsuffix hlast ▸ rfl) (hbitmaps name hname)
  · obtain ⟨font, hfont, rfl⟩ := List.mem_map.mp hmem
    refine absurd rfl (hbitmaps font.symbol ?_)
    simp only [objectSymbols, List.mem_append]
    exact .inr (.inr (.inr (.inl (List.mem_map.mpr ⟨font, hfont, rfl⟩))))

lemma ne_game_signature
    (htarget : symbol ∈ scripted.handedTargets input.project usedTypes knownTypes ∨
      symbol ∈ madeUpTargets scripted.tables) :
    symbol ≠ "game_signature" := by
  rintro rfl
  rcases htarget with hhanded | hmade
  · refine handedTargets_not_mem_reservedStems hok hset hhanded ?_
    rw [reservedStems_eq]
    exact List.mem_append_right _ (List.mem_append_right _ (by decide))
  · rcases List.mem_append.mp hmade with hpalette | havatar
    · obtain ⟨n, -, heq⟩ := List.mem_map.mp hpalette
      exact numbered_not_mem_fixedStems "palette" n (heq ▸ by decide)
    · exact absurd (lastWord_of_mem_avatarBitmaps havatar) (by decide)

/-- Of what files point to, nothing was both handed out and made up, unless an object or a sound is
called like a palette or like the pictures of an avatar font. -/
lemma handed_and_made_up_iff
    (htarget : symbol ∈ scripted.handedTargets input.project usedTypes knownTypes ∨
      symbol ∈ madeUpTargets scripted.tables)
    :
    symbol ∈ scripted.handedTargets input.project usedTypes knownTypes ++
        scripted.tables.sounds.map (·.symbol) ∧ symbol ∈ ownDefinitions scripted.tables ↔
      symbol ∈ objectSymbols scripted.tables ++ scripted.tables.sounds.map (·.symbol) ∧
        symbol ∈ madeUpTargets scripted.tables := by
  constructor
  · rintro ⟨hhanded, hown⟩
    rcases List.mem_append.mp hhanded with hhanded | hsound
    · have havatar := (mem_ownDefinitions hown).resolve_left
        (handedTargets_not_mem_reservedStems hok hset hhanded)
      exact ⟨List.mem_append_left _
        (mem_objectSymbols_of_mem_avatarBitmaps hok hset hhanded havatar),
        List.mem_append_right _ havatar⟩
    · have hdisjoint := (List.nodup_append.mp (nodup_handedTargets hok usedTypes knownTypes)).2.2
      refine ⟨List.mem_append_right _ hsound, htarget.resolve_left fun hhanded => ?_⟩
      exact hdisjoint symbol hhanded symbol hsound rfl
  · rintro ⟨hgiven, hmade⟩
    refine ⟨?_, madeUpTargets_subset _ hmade⟩
    rcases List.mem_append.mp hgiven with hobject | hsound
    · have hown : symbol ∈ ownStems (scripted.sourceInput input.project usedTypes knownTypes) :=
        objectSymbols_subset (symbols_of_compileScripts hok).1 hobject
      exact List.mem_append_left _ (List.mem_append_right _ (List.mem_append_left _ hown))
    · exact List.mem_append_right _ hsound

/-- What files point to is defined, and once unless it was both handed out and made up. -/
lemma defined_target
    (htarget : symbol ∈ scripted.handedTargets input.project usedTypes knownTypes ∨
      symbol ∈ madeUpTargets scripted.tables)
    :
    (∃ definer ∈ scripted.files input.project usedTypes knownTypes, definer.Defines symbol) ∧
      ((∃! definer, definer ∈ scripted.files input.project usedTypes knownTypes ∧
          definer.Defines symbol) ↔
        ¬(symbol ∈ objectSymbols scripted.tables ++ scripted.tables.sounds.map (·.symbol) ∧
          symbol ∈ madeUpTargets scripted.tables)) := by
  have hdefines : ∀ file, file ∈ scripted.files input.project usedTypes knownTypes ∧
      file.Defines symbol ↔ file ∈ scripted.files input.project usedTypes knownTypes ∧
        symbol ∈ file.defines :=
    fun file => and_congr_right fun hfile =>
      defines_files hfile (ne_game_signature hok hset htarget)
  obtain ⟨-, hnames⟩ := scripted.files_of_fileSet _ _ _ hset
  have hperm := scripted.definitions_files input.project usedTypes knownTypes
  have hhanded := List.nodup_iff_count_le_one.mp (nodup_handedTargets hok usedTypes knownTypes)
    symbol
  have hown := List.nodup_iff_count_le_one.mp (nodup_ownDefinitions scripted.tables) symbol
  -- one of the two sides defines it
  have heither : symbol ∈ scripted.handedTargets input.project usedTypes knownTypes ++
      scripted.tables.sounds.map (·.symbol) ∨ symbol ∈ ownDefinitions scripted.tables :=
    htarget.imp (List.mem_append_left _) fun hmade => madeUpTargets_subset _ hmade
  simp only [hdefines, existsUnique_iff_count (List.Nodup.of_map _ hnames)
    (fun _ hfile => nodup_defines_files hfile)]
  constructor
  · exact List.mem_flatMap.mp (hperm.mem_iff.mpr (List.mem_append.mpr heither))
  · rw [← handed_and_made_up_iff hok hset htarget, hperm.count_eq, List.count_append]
    rw [← List.count_pos_iff, ← List.count_pos_iff] at heither ⊢
    omega

end

/-! ## All references -/

/-- **Generated files refer only to what is generated.**  Once the files of a project are produced,
every header that one of them includes is a file, and every symbol that one of them points to is
defined.  It is defined by exactly one file unless the generator made up the symbol and the project
asked for it too, for an object or a sound that is called like a palette or like the pictures of an
avatar font.  Every palette, background and sprite sheet that a scene is built from is there. -/
theorem generated_references_resolve
    (hok : (compileScripts input reporter tree).result = .ok scripted)
    (hset : scripted.fileSet input.project usedTypes knownTypes = .ok set) :
    set.files = (scripted.files input.project usedTypes knownTypes).map
        (fun file => (file.name, file.text)) ∧
      (∀ file ∈ scripted.files input.project usedTypes knownTypes, ∀ header ∈ file.includes,
        set.contains (header ++ ".h") = true) ∧
      (∀ file ∈ scripted.files input.project usedTypes knownTypes, ∀ symbol ∈ file.pointers,
        (∃ definer ∈ scripted.files input.project usedTypes knownTypes, definer.Defines symbol) ∧
        ((∃! definer, definer ∈ scripted.files input.project usedTypes knownTypes ∧
            definer.Defines symbol) ↔
          ¬(symbol ∈ objectSymbols scripted.tables ++ scripted.tables.sounds.map (·.symbol) ∧
            symbol ∈ madeUpTargets scripted.tables))) ∧
      ∀ entry ∈ scripted.tables.scenes, Resolves scripted.tables entry := by
  obtain ⟨hfiles, -⟩ := scripted.files_of_fileSet _ _ _ hset
  refine ⟨hfiles, ?_, ?_, (complete_of_compileScripts hok).scenes⟩
  · intro file hfile header hheader
    rw [FileSet.contains_iff, hfiles, List.map_map]
    exact header_mem_names hok hfile hheader
  · intro file hfile symbol hsymbol
    exact defined_target hok hset (mem_targets hok hfile hsymbol)

end

end

/-! ## A sound that is called like a palette -/

lemma source_mem_dataFiles {input : Source.Input} {table : Table} (h : table ∈ allTables input) :
    ∃ file ∈ dataFiles input, file.name = table.symbol ++ ".c" ∧ table.body <:+ file.lines := by
  refine ⟨_, mem_dataFiles.mpr (.inl ⟨table, h, mem_filesIn.mpr (.inl rfl)⟩), ?_,
    List.suffix_append _ _⟩
  show "" ++ table.symbol ++ ".c" = _
  rw [String.empty_append]

lemma palette_mem_pointers (input : Source.Input) {entry : SceneEntry} {own : SceneScripts}
    (hentry : (entry, own) ∈ input.tables.scenes.zip input.scripts) {symbol : String}
    (hsymbol : paletteAt input.tables input.tables.palettes.sceneBackground entry.scene.id =
      some symbol) : ∃ file ∈ dataFiles input, symbol ∈ file.pointers := by
  obtain ⟨parts, type, hpalette, htable⟩ : ∃ (parts : SceneParts) (type : Nat),
      parts.palette = some symbol ∧ sceneTable entry type parts ∈
        sceneTables input.tables input.usedTypes entry own :=
    ⟨_, _, hsymbol, List.mem_append_right _ (List.mem_singleton_self _)⟩
  obtain ⟨file, hfile, -, hbody⟩ := source_mem_dataFiles (List.mem_append_left _
    (List.mem_append_right _ (List.mem_flatMap.mpr ⟨_, hentry, htable⟩)))
  refine ⟨file, hfile, mem_pointers.mpr ⟨pointerField "palette" parts.palette, hbody.subset ?_, ?_⟩⟩
  · simp [sceneTable]
  · simp [pointerField, hpalette]

/-- Plays a sound. -/
def beepEvent : Event where
  command := "EVENT_SOUND_PLAY_EFFECT"
  args := [("soundId", .string "beep"), ("type", .string "asset")]

/-- A project whose sound is called like the first palette. -/
def beepInput : Tables.Input :=
  { loneInput beepEvent with
    project :=
      { (loneInput beepEvent).project with
        sounds := [{ id := "beep", name := "beep", symbol := "palette_0" }] } }

/-- The files of the project are produced, with a scene and a sound among them. -/
lemma exists_scripted_beep :
    ∃ scripted set, (compileScripts beepInput {} {}).result = .ok scripted ∧
      scripted.fileSet beepInput.project [] [] = .ok set ∧
      (∃ pair ∈ scripted.tables.scenes.zip scripted.scenes, pair.1.scene.id = "room") ∧
      "palette_0" ∈ scripted.tables.sounds.map (·.symbol) := by
  obtain ⟨scripted, hok, hcheck⟩ : ∃ scripted,
      (compileScripts beepInput {} {}).result = .ok scripted ∧
        decide ((∀ stem ∈ scripted.scripts.map Compiled.symbol ++
            ownStems (scripted.sourceInput beepInput.project [] []),
              ¬(lastWord stem.toList).all Char.isDigit = true ∧ stem ∉ fixedStems) ∧
          FactorsFit beepInput.project scripted.tables ∧
          (∃ pair ∈ scripted.tables.scenes.zip scripted.scenes, pair.1.scene.id = "room") ∧
          "palette_0" ∈ scripted.tables.sounds.map (·.symbol)) = true :=
    exists_ok_of_check (by decide +kernel)
  obtain ⟨hstems, hfits, hscene, hsound⟩ := of_decide_eq_true hcheck
  have hset := FileSet.addFiles_of_nodup ((fits_files_iff hok [] []).mpr hfits)
    (nodup_files_of_stems hok hstems)
  exact ⟨scripted, _, hok, (scripted.fileSet_eq_addFiles _ _ _).trans hset, hscene, hsound⟩

/-- A sound gets the name of a palette.  The scene points to the palette, but what it points to has
more than one definition. -/
theorem palette_defined_twice :
    ∃ scripted set, (compileScripts beepInput {} {}).result = .ok scripted ∧
      scripted.fileSet beepInput.project [] [] = .ok set ∧
      (∃ file ∈ scripted.files beepInput.project [] [], "palette_0" ∈ file.pointers) ∧
      ∃ first ∈ scripted.files beepInput.project [] [],
        ∃ second ∈ scripted.files beepInput.project [] [],
          first ≠ second ∧ first.Defines "palette_0" ∧ second.Defines "palette_0" := by
  obtain ⟨scripted, set, hok, hset, ⟨⟨entry, own⟩, hentry, hid⟩, hsound⟩ := exists_scripted_beep
  obtain ⟨place, hlt, hplace⟩ := ((complete_of_compileScripts hok).scenes entry
    (List.of_mem_zip hentry).1).palette
  have hfirst : Tables.lastOf? scripted.tables.palettes.sceneBackground entry.scene.id =
      some 0 := by
    rw [palettes_of_compileScripts hok, Tables.sceneBackground_buildPalettes, hid]
    rfl
  obtain rfl := Option.some.inj (hplace.symm.trans hfirst)
  have hmade : "palette_0" ∈ madeUpTargets scripted.tables :=
    List.mem_append_left _ (List.mem_map.mpr ⟨0, List.mem_range.mpr hlt, rfl⟩)
  have hpalette : paletteAt scripted.tables scripted.tables.palettes.sceneBackground
      entry.scene.id = some "palette_0" := by
    rw [paletteAt, hplace, Option.bind_some, if_pos hlt]
    rfl
  obtain ⟨file, hfile, hpointer⟩ := palette_mem_pointers
    (scripted.sourceInput beepInput.project [] []) hentry hpalette
  obtain ⟨⟨first, hfirst, hdefines⟩, hunique⟩ := defined_target hok hset (.inr hmade)
  refine ⟨scripted, set, hok, hset, ⟨file, List.mem_append_right _ hfile, hpointer⟩, first, hfirst,
    ?_⟩
  by_contra hother
  refine hunique.mp ⟨first, ⟨hfirst, hdefines⟩, ?_⟩ ⟨List.mem_append_right _ hsound, hmade⟩
  rintro second ⟨hsecond, hdefines'⟩
  by_contra hne
  exact hother ⟨second, hsecond, fun heq => hne heq.symm, hdefines, hdefines'⟩

/-- All headers of the project with this sound are there, and what it points to is defined once
where the generator did not make up the symbol. -/
theorem generated_references_resolve_beep :
    ∃ scripted set, (compileScripts beepInput {} {}).result = .ok scripted ∧
      scripted.fileSet beepInput.project [] [] = .ok set ∧
      ∀ file ∈ scripted.files beepInput.project [] [],
        (∀ header ∈ file.includes, set.contains (header ++ ".h") = true) ∧
        ∀ symbol ∈ file.pointers, symbol ∉ madeUpTargets scripted.tables →
          ∃! definer, definer ∈ scripted.files beepInput.project [] [] ∧
            definer.Defines symbol := by
  obtain ⟨scripted, set, hok, hset, -⟩ := exists_scripted_beep
  obtain ⟨-, hheaders, hpointers, -⟩ := generated_references_resolve hok hset
  refine ⟨scripted, set, hok, hset, fun file hfile => ⟨hheaders file hfile, ?_⟩⟩
  intro symbol hsymbol hmade
  exact (hpointers file hfile symbol hsymbol).2.mpr fun hclash => hmade hclash.2

end Cartridge.Compile
