import Cartridge.Proofs.Compile.ScriptNames
import Cartridge.Proofs.Compile.Variables
import Cartridge.Proofs.Source.Products
import Cartridge.Proofs.Tables.Failures

/-!
# The names of generated files

The files of a project are those of its scripts and those of its tables.  Every file is named after
a symbol that was handed out, or it is one of those that the generator names itself.  Symbols that
were handed out never clash, as all of them come from one allocator, and the generator's own names
are different from each other.  So a name that is produced twice is one of the generator's own
(`duplicate_file_reserved`).

Nothing keeps a project from asking for such a name.  Companions and shared scripts never get one,
but an object does when it asks for it, and then there is a clash (`clash_iff_reserved_symbol`).
-/

namespace Cartridge.Compile

open Cartridge.Files (FileTree)
open Cartridge.Script
open Cartridge.Source
open Cartridge.Symbol
open Cartridge.Symbol.Allocator (Hands)
open Cartridge.Tables (Raises raisesOnly_build)

/-! ## Stages -/

/-- There are scripts for every scene. -/
lemma length_compileScenes (scope : Scope) (entries : List Tables.SceneEntry) (session : Session) :
    (compileScenes scope entries session).1.length = entries.length := by
  induction entries generalizing session with
  | nil => rfl
  | cons entry rest ih =>
    rw [compileScenes, List.length_cons, List.length_cons, ih]

namespace Scripted

variable (scripted : Scripted) (project : Project) (usedTypes : List String)
  (knownTypes : List Template.SceneType)

/-- All files of a project, in order. -/
def files : List File :=
  scripted.scripts.flatMap scriptFiles ++
    dataFiles (scripted.sourceInput project usedTypes knownTypes)

/-- The files of scripts and tables together. -/
def fileSet : Except Error FileSet := do
  let set ← scripted.scriptSet
  scripted.addData project usedTypes knownTypes set

lemma fileSet_eq_addFiles :
    scripted.fileSet project usedTypes knownTypes =
      FileSet.addFiles {} (scripted.files project usedTypes knownTypes) :=
  (FileSet.addFiles_append _ _ _).symm

lemma fileSet_of_scriptSet {set : FileSet} (h : scripted.scriptSet = .ok set) :
    scripted.fileSet project usedTypes knownTypes =
      scripted.addData project usedTypes knownTypes set := by
  rw [fileSet, h]
  exact pure_bind set _

/-- The files of everything that has a symbol of its own. -/
def ownOutputs : List (String × List Char) :=
  (scripted.scripts.map Compiled.symbol).map scriptOutput ++
    Source.ownOutputs (scripted.sourceInput project usedTypes knownTypes)

/-- Nothing is wrong with the files, or one of them does not fit, or a name is there twice. -/
lemma fileSet_cases :
    (∃ set, scripted.fileSet project usedTypes knownTypes = .ok set ∧
      set.files = (scripted.files project usedTypes knownTypes).map
        (fun file => (file.name, file.text)) ∧
      ((scripted.files project usedTypes knownTypes).map File.name).Nodup ∧
      ∀ file ∈ scripted.files project usedTypes knownTypes, file.fits = true) ∨
    scripted.fileSet project usedTypes knownTypes = .error .overflow ∧
      (∃ file ∈ scripted.files project usedTypes knownTypes, file.fits = false) ∨
    ∃ name, scripted.fileSet project usedTypes knownTypes = .error (.duplicateFile name) ∧
      2 ≤ ((scripted.files project usedTypes knownTypes).map File.name).count name := by
  rw [fileSet_eq_addFiles]
  rcases FileSet.addFiles_cases FileSet.nodup_empty
    (scripted.files project usedTypes knownTypes) with
    ⟨⟨hfits, hnodup⟩, hok⟩ | ⟨front, file, back, hfiles, -, ⟨hfits, herror⟩ | ⟨-, -, herror⟩⟩
  · exact .inl ⟨_, hok, rfl, hnodup, hfits⟩
  · refine .inr (.inl ⟨herror, file, ?_, hfits⟩)
    rw [hfiles]
    exact List.mem_append_right front List.mem_cons_self
  · exact .inr (.inr ⟨_, herror, FileSet.two_le_count_of_addFiles FileSet.nodup_empty herror⟩)

/-- The files that are produced are all files, under names of their own. -/
lemma files_of_fileSet {set : FileSet}
    (h : scripted.fileSet project usedTypes knownTypes = .ok set) :
    set.files = (scripted.files project usedTypes knownTypes).map
        (fun file => (file.name, file.text)) ∧
      ((scripted.files project usedTypes knownTypes).map File.name).Nodup := by
  rw [fileSet_eq_addFiles] at h
  obtain ⟨⟨-, hnodup⟩, rfl⟩ := FileSet.addFiles_eq_ok FileSet.nodup_empty h
  exact ⟨rfl, hnodup⟩

lemma names_files :
    ((scripted.files project usedTypes knownTypes).map File.name).Perm
      (outputNames (scripted.ownOutputs project usedTypes knownTypes) ++
        outputNames (reserved scripted.tables)) := by
  have hdata := names_dataFiles (scripted.sourceInput project usedTypes knownTypes)
  rw [files, ownOutputs, List.map_append, names_scriptFiles, outputNames_append, List.append_assoc,
    ← outputNames_append]
  exact hdata.append_left _

end Scripted

section

variable {input : Tables.Input} {reporter : Reporter} {tree : FileTree} {scripted : Scripted}

/-! ## Names that were handed out -/

/-- The names that were taken for the tables and for the scripts are plain, and none of them was
taken twice. -/
lemma exists_tasks_taken (hok : (compileScripts input reporter tree).result = .ok scripted) :
    ∃ tasks : List Task, scripted.scripts.map Compiled.symbol = tasks.map Task.symbol ∧
      (∀ task ∈ tasks, ∃ a, task.demand.Found a task.symbol) ∧
      (scripted.tables.symbols.flatMap family ++ tasks.flatMap Task.taken).Nodup ∧
      ∀ name ∈ scripted.tables.symbols.flatMap family ++ tasks.flatMap Task.taken,
        IsPlain name := by
  obtain ⟨symbols, htables, -, -, hscripts⟩ := compileScripts_stages hok
  obtain ⟨tasks, htasks, hprovided⟩ := exists_provided_scenes (scripted.scope input)
    scripted.tables.scenes symbols
  have hhands : Hands .empty (scripted.tables.symbols.map family ++ tasks.map Task.taken) _ :=
    (Tables.hands_build htables).append hprovided.hands
  have hflatten : (scripted.tables.symbols.map family ++ tasks.map Task.taken).flatten =
      scripted.tables.symbols.flatMap family ++ tasks.flatMap Task.taken := by
    rw [List.flatten_append]
    rfl
  refine ⟨tasks, hscripts ▸ htasks, hprovided.found, ?_⟩
  rw [← hflatten]
  refine ⟨hhands.nodup_flatten ?_, ?_⟩
  · simp only [List.forall_mem_append, List.forall_mem_map]
    exact ⟨fun symbol _ => nodup_family symbol, fun task _ => task.nodup_taken⟩
  · intro name hname
    obtain ⟨names, hnames, hname⟩ := List.mem_flatten.mp hname
    exact hhands.isPlain names hnames name hname

/-- What has a symbol of its own is called by names that were taken, none of them twice. -/
lemma exists_taken (hok : (compileScripts input reporter tree).result = .ok scripted)
    (usedTypes : List String) (knownTypes : List Template.SceneType) :
    ∃ names : List String, names.Nodup ∧ (∀ name ∈ names, IsPlain name) ∧
      (ownStems (scripted.sourceInput input.project usedTypes knownTypes) ++
        scripted.scripts.map Compiled.symbol).Subperm names ∧
      (scripted.tables.sounds.map (·.symbol)).Subperm names := by
  obtain ⟨symbols, htables, -⟩ := compileScripts_stages hok
  obtain ⟨tasks, htasks, -, hnodup, hplain⟩ := exists_tasks_taken hok
  refine ⟨_, hnodup, hplain, ?_, ?_⟩
  · have hobjects := ((objectSymbols_sublist scripted.tables).flatMap family).subperm
    rw [htasks]
    exact ((ownStems_subperm (assembled_build htables)).trans hobjects).append
      (map_sublist_flatMap Task.symbol_mem_taken tasks).subperm
  · exact (((soundSymbols_sublist scripted.tables).trans (sublist_flatMap_family _)).trans
      (List.sublist_append_left _ _)).subperm

/-- Sounds lie in a folder of their own. -/
lemma not_isPlain_sound (symbol : String) : ¬IsPlain ("sounds/" ++ symbol) := by
  intro h
  have hslash : "sounds/".toList.all isPlainChar = false := by decide
  rw [IsPlain, String.toList_append, List.all_append, hslash] at h
  cases h

lemma nodup_of_subperm {part names : List String} (h : part.Subperm names) (hnodup : names.Nodup) :
    part.Nodup := by
  obtain ⟨sublist, hperm, hsublist⟩ := h
  exact hperm.nodup_iff.mp (hnodup.sublist hsublist)

lemma map_fst_ownOutputs (scripted : Scripted) (project : Project) (usedTypes : List String)
    (knownTypes : List Template.SceneType) :
    (scripted.ownOutputs project usedTypes knownTypes).map Prod.fst =
      scripted.scripts.map Compiled.symbol ++
        (ownStems (scripted.sourceInput project usedTypes knownTypes) ++
          scripted.tables.sounds.map fun sound => "sounds/" ++ sound.symbol) := by
  rw [Scripted.ownOutputs, List.map_append, map_fst_scriptOutput, Source.ownOutputs,
    map_fst_tableOutput]
  rfl

section

variable (hok : (compileScripts input reporter tree).result = .ok scripted)

include hok

/-- Files of what has a symbol of its own never clash. -/
lemma nodup_ownOutputs (usedTypes : List String) (knownTypes : List Template.SceneType) :
    (outputNames (scripted.ownOutputs input.project usedTypes knownTypes)).Nodup := by
  obtain ⟨names, hnodup, hplain, hown, hsounds⟩ := exists_taken hok usedTypes knownTypes
  have hsounds' : (scripted.tables.sounds.map fun sound => "sounds/" ++ sound.symbol).Nodup := by
    have hmap := (nodup_of_subperm hsounds hnodup).map (f := fun symbol => "sounds/" ++ symbol)
      fun _ _ heq => String.append_right_inj _ |>.mp heq
    rwa [List.map_map] at hmap
  have hown' := (List.perm_append_comm.subperm).trans hown
  refine nodup_outputNames ?_ ?_
  · rw [map_fst_ownOutputs, ← List.append_assoc, List.nodup_append]
    refine ⟨nodup_of_subperm hown' hnodup, hsounds', ?_⟩
    intro stem hstem sound hsound heq
    obtain ⟨asset, -, rfl⟩ := List.mem_map.mp hsound
    exact not_isPlain_sound asset.symbol (heq ▸ hplain stem (hown'.subset hstem))
  · intro output houtput
    rcases List.mem_append.mp houtput with hscript | htable
    · obtain ⟨symbol, -, rfl⟩ := List.mem_map.mp hscript
      exact (by decide : ['s', 'h'].Nodup)
    · obtain ⟨symbol, -, rfl⟩ := List.mem_map.mp htable
      exact (by decide : ['c', 'h'].Nodup)

/-! ## Clashes -/

/-- The files of scripts never clash with each other. -/
lemma exists_scriptSet :
    ∃ set, scripted.scriptSet = .ok set ∧
      set.files = (scripted.scripts.flatMap scriptFiles).map (fun file => (file.name, file.text)) ∧
      (set.files.map Prod.fst).Nodup := by
  obtain ⟨names, hnodup, -, hown, -⟩ := exists_taken hok [] []
  have hscripts : (scripted.scripts.map Compiled.symbol).Subperm names :=
    (List.sublist_append_right _ _).subperm.trans hown
  have hfiles := nodup_scriptFiles (nodup_of_subperm hscripts hnodup)
  refine ⟨_, FileSet.addFiles_of_nodup (fun _ => fits_scriptFiles) hfiles, rfl, ?_⟩
  rwa [List.map_map]

lemma length_le_of_compileScripts : scripted.tables.scenes.length ≤ scripted.scenes.length := by
  obtain ⟨symbols, -, -, hscenes, -⟩ := compileScripts_stages hok
  rw [hscenes, length_compileScenes]

/-- The files of a project fit exactly when its factors are small enough. -/
lemma fits_files_iff (usedTypes : List String) (knownTypes : List Template.SceneType) :
    (∀ file ∈ scripted.files input.project usedTypes knownTypes, file.fits = true) ↔
      FactorsFit input.project scripted.tables := by
  rw [Scripted.files, List.forall_mem_append]
  exact (and_iff_right fun _ => fits_scriptFiles).trans
    (fits_dataFiles_iff (length_le_of_compileScripts hok))

end

variable {usedTypes : List String} {knownTypes : List Template.SceneType} {name : String}
  {script : Compiled}

/-- A name that is there twice is one of the generator's own, and that of a symbol too. -/
lemma mem_of_two_le_count (hok : (compileScripts input reporter tree).result = .ok scripted)
    (h : 2 ≤ ((scripted.files input.project usedTypes knownTypes).map File.name).count name) :
    name ∈ outputNames (scripted.ownOutputs input.project usedTypes knownTypes) ∧
      name ∈ outputNames (reserved scripted.tables) := by
  have hown := List.nodup_iff_count_le_one.mp (nodup_ownOutputs hok usedTypes knownTypes) name
  have hreserved := List.nodup_iff_count_le_one.mp
    (nodup_outputNames (nodup_reservedStems scripted.tables)
      fun _ => nodup_endings_of_mem_reserved) name
  rw [(scripted.names_files input.project usedTypes knownTypes).count_eq, List.count_append] at h
  constructor
  · exact List.count_pos_iff.mp (by omega)
  · exact List.count_pos_iff.mp (by omega)

/-- So is a name that is refused. -/
lemma mem_of_duplicateFile (hok : (compileScripts input reporter tree).result = .ok scripted)
    (h : scripted.fileSet input.project usedTypes knownTypes = .error (.duplicateFile name)) :
    name ∈ outputNames (scripted.ownOutputs input.project usedTypes knownTypes) ∧
      name ∈ outputNames (reserved scripted.tables) := by
  rw [Scripted.fileSet_eq_addFiles] at h
  exact mem_of_two_le_count hok (FileSet.two_le_count_of_addFiles FileSet.nodup_empty h)

/-- Only the encoder can claim that a file is there twice before there are files. -/
lemma raises_of_compileScripts
    (h : (compileScripts input reporter tree).result = .error (.duplicateFile name)) :
    ∃ later, Raises (input.encoder later) (.duplicateFile name) := by
  unfold compileScripts at h
  simp only [Outcome.result_bind_eq_error] at h
  rcases h with hbuild | ⟨_, -, hcheckpoint | ⟨_, -, hscripts⟩⟩
  · cases raisesOnly_build tree .empty _ hbuild with
    | encoder hraises => exact ⟨_, hraises⟩
  · have hinterrupted : RaisesOnly (· = .interrupted) reporter.checkpoint := by
      rw [Reporter.checkpoint]
      split_ifs
      · exact .error rfl
      · exact .ok ()
    cases hinterrupted _ hcheckpoint
  · cases hscripts

/-- A project stops at a name that is there twice when the files do. -/
lemma fileSet_of_compileProject
    (h : (compileProject input reporter tree).result = .error (.duplicateFile name)) :
    (compileScripts input reporter tree).result = .error (.duplicateFile name) ∨
      ∃ scripted knownTypes, (compileScripts input reporter tree).result = .ok scripted ∧
        scripted.fileSet input.project (usedSceneTypes input.project) knownTypes =
          .error (.duplicateFile name) := by
  rw [compileProject] at h
  split_ifs at h
  · cases h
  · simp only [Outcome.result_bind_eq_error, Outcome.result_ofExcept] at h
    rcases h with hscripts | ⟨scripted, hscripted, hset | ⟨set, hset, htypes | ⟨types, -,
      hdata | ⟨_, -, hdone⟩⟩⟩⟩
    · exact .inl hscripts
    · obtain ⟨files, hfiles, -⟩ := exists_scriptSet hscripted
      rw [hfiles] at hset
      cases hset
    · have hother : RaisesOnly (· ≠ .duplicateFile name) input.template.sceneTypes :=
        Template.raisesOnly_sceneTypes (by rintro _ _ ⟨⟩) (by rintro _ ⟨⟩) _
      exact absurd rfl (hother _ htypes)
    · refine .inr ⟨scripted, types, hscripted, ?_⟩
      rw [Scripted.fileSet_of_scriptSet _ _ _ _ hset]
      exact hdata
    · cases hdone

/-- A project stops when its files do. -/
lemma compileProject_eq_error {types : List Template.SceneType} {e : Error}
    (hscenes : ¬input.project.scenes.isEmpty = true)
    (hok : (compileScripts input reporter tree).result = .ok scripted)
    (htypes : input.template.sceneTypes = .ok types)
    (h : scripted.fileSet input.project (usedSceneTypes input.project) types = .error e) :
    (compileProject input reporter tree).result = .error e := by
  obtain ⟨set, hset, -⟩ := exists_scriptSet hok
  rw [Scripted.fileSet_of_scriptSet _ _ _ _ hset] at h
  rw [compileProject, if_neg hscenes]
  simp only [Outcome.result_bind_eq_error, Outcome.result_ofExcept]
  exact .inr ⟨scripted, hok, .inr ⟨set, hset, .inr ⟨types, htypes, .inl h⟩⟩⟩

lemma fileSet_of_compileProject_ok {data : Data}
    (h : (compileProject input reporter tree).result = .ok data) :
    ∃ scripted knownTypes, (compileScripts input reporter tree).result = .ok scripted ∧
      scripted.fileSet input.project (usedSceneTypes input.project) knownTypes =
        .ok data.files := by
  rw [compileProject] at h
  split_ifs at h
  · cases h
  · simp only [Outcome.result_bind_eq_ok, Outcome.result_ofExcept] at h
    obtain ⟨scripted, hscripted, set, hset, types, -, later, hlater, hdata⟩ := h
    cases hdata
    refine ⟨scripted, types, hscripted, ?_⟩
    rw [Scripted.fileSet_of_scriptSet _ _ _ _ hset]
    exact hlater

/-! ## What is produced twice -/

/-- A project is refused for a name of the generator, or for what its encoder says. -/
lemma reserved_or_raises_of_compileProject
    (h : (compileProject input reporter tree).result = .error (.duplicateFile name)) :
    (∃ scripted, (compileScripts input reporter tree).result = .ok scripted ∧
        name ∈ outputNames (reserved scripted.tables)) ∨
      ∃ later, Raises (input.encoder later) (.duplicateFile name) := by
  rcases fileSet_of_compileProject h with hscripts | ⟨scripted, knownTypes, hok, hset⟩
  · exact .inr (raises_of_compileScripts hscripts)
  · exact .inl ⟨scripted, hok, (mem_of_duplicateFile hok hset).2⟩

/-- The encoder that reads files never says that a file is there twice. -/
lemma fileEncoder_not_raises_duplicateFile (decode : Tile.PictureDecoder) (tree : FileTree)
    (root : Files.FilePath) (name : String) :
    ¬Raises (Tile.fileEncoder decode tree root) (.duplicateFile name) := by
  intro h
  rcases h.of_fileEncoder with ⟨_, _, ⟨⟩⟩ | ⟨_, _, ⟨⟩⟩

/-- So a project that is encoded from files is refused for a name of the generator only. -/
lemma reserved_of_fileEncoder {decode : Tile.PictureDecoder} {root : Files.FilePath}
    (hencoder : ∀ later, input.encoder later = Tile.fileEncoder decode later root)
    (h : (compileProject input reporter tree).result = .error (.duplicateFile name)) :
    ∃ scripted, (compileScripts input reporter tree).result = .ok scripted ∧
      name ∈ outputNames (reserved scripted.tables) := by
  refine (reserved_or_raises_of_compileProject h).resolve_right ?_
  rintro ⟨later, hraises⟩
  rw [hencoder later] at hraises
  exact fileEncoder_not_raises_duplicateFile decode later root name hraises

/-- **Only the generator's own names are ever produced twice.**  Once there are scripts, all files
are produced, each under a name of its own, or a name is refused that the generator chose without
asking, or a product in a file overflows.  When a whole project is refused for a name, the name is
such a one, unless the encoder itself answers with this error; when it is not refused, no name is
there twice. -/
theorem duplicate_file_reserved (input : Tables.Input) (reporter : Reporter) (tree : FileTree) :
    (∀ scripted, (compileScripts input reporter tree).result = .ok scripted →
      ∀ usedTypes knownTypes,
        match scripted.fileSet input.project usedTypes knownTypes with
        | .ok set =>
          set.files = (scripted.files input.project usedTypes knownTypes).map
              (fun file => (file.name, file.text)) ∧
            ((scripted.files input.project usedTypes knownTypes).map File.name).Nodup
        | .error e =>
          e = .overflow ∧ (∃ file ∈ scripted.files input.project usedTypes knownTypes,
              file.fits = false) ∨
            ∃ name ∈ outputNames (reserved scripted.tables), e = .duplicateFile name) ∧
    (∀ name, (compileProject input reporter tree).result = .error (.duplicateFile name) →
      (∃ scripted, (compileScripts input reporter tree).result = .ok scripted ∧
        name ∈ outputNames (reserved scripted.tables)) ∨
      ∃ later, Raises (input.encoder later) (.duplicateFile name)) ∧
    ∀ data, (compileProject input reporter tree).result = .ok data →
      (data.files.files.map Prod.fst).Nodup := by
  refine ⟨?_, ?_, ?_⟩
  · intro scripted hok usedTypes knownTypes
    rcases scripted.fileSet_cases input.project usedTypes knownTypes with
      ⟨set, hset, hfiles, hnodup, -⟩ | ⟨hset, hfits⟩ | ⟨name, hset, hcount⟩
    · rw [hset]
      exact ⟨hfiles, hnodup⟩
    · rw [hset]
      exact .inl ⟨rfl, hfits⟩
    · rw [hset]
      exact .inr ⟨name, (mem_of_two_le_count hok hcount).2, rfl⟩
  · exact fun _ => reserved_or_raises_of_compileProject
  · intro data h
    obtain ⟨scripted, knownTypes, hok, hset⟩ := fileSet_of_compileProject_ok h
    obtain ⟨hfiles, hnodup⟩ := scripted.files_of_fileSet _ _ _ hset
    rwa [hfiles, List.map_map]

/-! ## Who is called like a file of the generator -/

/-- A name with two sources has a stem with two sources. -/
lemma exists_stem_of_mem_outputNames {first second : List (String × List Char)}
    (hfirst : name ∈ outputNames first) (hsecond : name ∈ outputNames second) :
    ∃ stem ∈ first.map Prod.fst, stem ∈ second.map Prod.fst := by
  obtain ⟨⟨stem, endings⟩, houtput, hname⟩ := List.mem_flatMap.mp hfirst
  obtain ⟨ending, -, rfl⟩ := List.mem_map.mp hname
  obtain ⟨others, hother, -⟩ := mem_outputNames.mp hsecond
  exact ⟨stem, List.mem_map.mpr ⟨_, houtput, rfl⟩, List.mem_map.mpr ⟨_, hother, rfl⟩⟩

section

variable (hok : (compileScripts input reporter tree).result = .ok scripted)

include hok

lemma assembled_of_compileScripts : Assembled scripted.tables := by
  obtain ⟨symbols, htables, -⟩ := compileScripts_stages hok
  exact assembled_build htables

/-- Every script belongs to a task that got its symbol as it asked for it. -/
lemma exists_task_of_script (hscript : script ∈ scripted.scripts) :
    ∃ task : Task, task.symbol = script.symbol ∧ ∃ a, task.demand.Found a task.symbol := by
  obtain ⟨tasks, htasks, hfound, -⟩ := exists_tasks_taken hok
  have hmem : script.symbol ∈ tasks.map Task.symbol :=
    htasks ▸ List.mem_map.mpr ⟨script, hscript, rfl⟩
  obtain ⟨task, htask, hsymbol⟩ := List.mem_map.mp hmem
  exact ⟨task, hsymbol, hfound task htask⟩

/-- Of all scripts only one name can be reserved. -/
lemma symbol_eq_of_mem_reservedStems (hscript : script ∈ scripted.scripts)
    (hreserved : script.symbol ∈ reservedStems scripted.tables) :
    script.symbol = "script_engine_init" := by
  obtain ⟨task, hsymbol, hfound⟩ := exists_task_of_script hok hscript
  rw [← hsymbol] at hreserved ⊢
  exact task.symbol_eq_of_mem_reservedStems hfound hreserved

/-- When a name is there twice, something that has a symbol of its own is called like a file of the
generator. -/
lemma exists_reserved_of_not_nodup
    (h : ¬((scripted.files input.project usedTypes knownTypes).map File.name).Nodup) :
    ∃ stem ∈ scripted.scripts.map Compiled.symbol ++
        ownStems (scripted.sourceInput input.project usedTypes knownTypes),
      stem ∈ reservedStems scripted.tables := by
  obtain ⟨name, hcount⟩ : ∃ name,
      2 ≤ ((scripted.files input.project usedTypes knownTypes).map File.name).count name := by
    rw [List.nodup_iff_count_le_one] at h
    push Not at h
    exact h
  obtain ⟨hown, hreserved⟩ := mem_of_two_le_count hok hcount
  obtain ⟨stem, hstem, hreserved⟩ := exists_stem_of_mem_outputNames hown hreserved
  rw [map_fst_ownOutputs, ← List.append_assoc, List.mem_append] at hstem
  rcases hstem with hown | hsound
  · exact ⟨stem, hown, hreserved⟩
  · obtain ⟨asset, -, rfl⟩ := List.mem_map.mp hsound
    exact absurd (isPlain_of_mem_reservedStems hreserved) (not_isPlain_sound asset.symbol)

/-- Names are all different when nothing that has a symbol of its own is called like a file of the
generator; where no such symbol ends with a number, the fixed names are all that counts. -/
lemma nodup_files_of_stems
    (h : ∀ stem ∈ scripted.scripts.map Compiled.symbol ++
        ownStems (scripted.sourceInput input.project usedTypes knownTypes),
      ¬(lastWord stem.toList).all Char.isDigit = true ∧ stem ∉ fixedStems) :
    ((scripted.files input.project usedTypes knownTypes).map File.name).Nodup := by
  by_contra hclash
  obtain ⟨stem, hstem, hreserved⟩ := exists_reserved_of_not_nodup hok hclash
  obtain ⟨hword, hfixed⟩ := h stem hstem
  exact hfixed (mem_fixedStems_of_lastWord hword hreserved)

omit hok in
/-- A stem with a common ending and two sources is a name that is there twice. -/
lemma not_nodup_of_common {stem : String} {endings others : List Char} {ending : Char}
    (hown : (stem, endings) ∈ scripted.ownOutputs input.project usedTypes knownTypes)
    (hending : ending ∈ endings) (hreserved : (stem, others) ∈ reserved scripted.tables)
    (hother : ending ∈ others) :
    ¬((scripted.files input.project usedTypes knownTypes).map File.name).Nodup := by
  intro hnodup
  have hperm := scripted.names_files input.project usedTypes knownTypes
  have hdisjoint := (List.nodup_append.mp (hperm.nodup_iff.mp hnodup)).2.2
  exact hdisjoint _ (mem_outputNames.mpr ⟨endings, hown, hending⟩) _
    (mem_outputNames.mpr ⟨others, hreserved, hother⟩) rfl

lemma not_nodup_of_object {symbol : String} (hsymbol : symbol ∈ objectSymbols scripted.tables)
    (hreserved : symbol ∈ reservedStems scripted.tables) :
    ¬((scripted.files input.project usedTypes knownTypes).map File.name).Nodup := by
  have hown : symbol ∈ ownStems (scripted.sourceInput input.project usedTypes knownTypes) :=
    objectSymbols_subset (length_le_of_compileScripts hok) hsymbol
  obtain ⟨⟨_, others⟩, hother, rfl⟩ := List.mem_map.mp hreserved
  obtain ⟨ending, hending, hending'⟩ := exists_ending_of_mem_reserved hother
  refine not_nodup_of_common (List.mem_append_right _ ?_) hending hother hending'
  exact List.mem_map.mpr ⟨_, List.mem_append_left _ hown, rfl⟩

omit hok in
lemma not_nodup_of_script (hscript : script ∈ scripted.scripts)
    (hsymbol : script.symbol = "script_engine_init") :
    ¬((scripted.files input.project usedTypes knownTypes).map File.name).Nodup := by
  have hown : scriptOutput script.symbol ∈
      scripted.ownOutputs input.project usedTypes knownTypes :=
    List.mem_append_left _ (List.mem_map.mpr ⟨_, List.mem_map.mpr ⟨script, hscript, rfl⟩, rfl⟩)
  have hreserved : scriptOutput script.symbol ∈ reserved scripted.tables := by
    rw [hsymbol]
    exact List.mem_append_right _ (by decide)
  exact not_nodup_of_common hown List.mem_cons_self hreserved List.mem_cons_self

/-- All files are produced, or a factor is too large, or a name is there twice. -/
lemma fileSet_outcomes (usedTypes : List String) (knownTypes : List Template.SceneType) :
    (∃ set, scripted.fileSet input.project usedTypes knownTypes = .ok set) ∧
        ((scripted.files input.project usedTypes knownTypes).map File.name).Nodup ∧
        FactorsFit input.project scripted.tables ∨
      scripted.fileSet input.project usedTypes knownTypes = .error .overflow ∧
        ¬FactorsFit input.project scripted.tables ∨
      (∃ name,
          scripted.fileSet input.project usedTypes knownTypes = .error (.duplicateFile name)) ∧
        ¬((scripted.files input.project usedTypes knownTypes).map File.name).Nodup := by
  rw [← fits_files_iff hok usedTypes knownTypes]
  rcases scripted.fileSet_cases input.project usedTypes knownTypes with
    ⟨set, hset, -, hnodup, hfits⟩ | ⟨hset, file, hfile, hoverflow⟩ | ⟨name, hset, hcount⟩
  · exact .inl ⟨⟨set, hset⟩, hnodup, hfits⟩
  · refine .inr (.inl ⟨hset, fun hfits => ?_⟩)
    exact absurd (hfits file hfile) (by simp [hoverflow])
  · refine .inr (.inr ⟨⟨name, hset⟩, fun hnodup => ?_⟩)
    have hle := List.nodup_iff_count_le_one.mp hnodup name
    omega

/-- Files that fit are refused for a name that is there twice, and for nothing else. -/
lemma exists_duplicateFile_iff (hfits : FactorsFit input.project scripted.tables) :
    (∃ name, scripted.fileSet input.project usedTypes knownTypes = .error (.duplicateFile name)) ↔
      ¬((scripted.files input.project usedTypes knownTypes).map File.name).Nodup := by
  rcases fileSet_outcomes hok usedTypes knownTypes with
    ⟨⟨set, hset⟩, hnodup, -⟩ | ⟨-, hlarge⟩ | ⟨hset, hclash⟩
  · simp [hset, hnodup]
  · exact absurd hfits hlarge
  · exact iff_of_true hset hclash

/-- Files are refused exactly when a name is there twice or a factor is too large. -/
lemma exists_error_iff :
    (∃ e, scripted.fileSet input.project usedTypes knownTypes = .error e) ↔
      ¬((scripted.files input.project usedTypes knownTypes).map File.name).Nodup ∨
        ¬FactorsFit input.project scripted.tables := by
  rcases fileSet_outcomes hok usedTypes knownTypes with
    ⟨⟨set, hset⟩, hnodup, hfits⟩ | ⟨hset, hlarge⟩ | ⟨⟨name, hset⟩, hclash⟩
  · simp [hset, hnodup, hfits]
  · exact iff_of_true ⟨_, hset⟩ (.inr hlarge)
  · exact iff_of_true ⟨_, hset⟩ (.inl hclash)

end

/-- **An object with a reserved name makes the files clash, and nothing else does.**  What is
generated beside an object never has a reserved name, and of the scripts only one can.  A name of a
file is there twice exactly when an object is called like a file of the generator, or when there is
this script.  The files of a project are refused exactly then, or for a product that overflows. -/
theorem clash_iff_reserved_symbol
    (hok : (compileScripts input reporter tree).result = .ok scripted) (usedTypes : List String)
    (knownTypes : List Template.SceneType) :
    (∀ stem ∈ ownStems (scripted.sourceInput input.project usedTypes knownTypes),
      stem ∈ reservedStems scripted.tables → stem ∈ objectSymbols scripted.tables) ∧
    (∀ script ∈ scripted.scripts, script.symbol ∈ reservedStems scripted.tables →
      script.symbol = "script_engine_init") ∧
    (¬((scripted.files input.project usedTypes knownTypes).map File.name).Nodup ↔
      (∃ symbol ∈ objectSymbols scripted.tables, symbol ∈ reservedStems scripted.tables) ∨
        ∃ script ∈ scripted.scripts, script.symbol = "script_engine_init") ∧
    ((∃ e, scripted.fileSet input.project usedTypes knownTypes = .error e) ↔
      ((∃ symbol ∈ objectSymbols scripted.tables, symbol ∈ reservedStems scripted.tables) ∨
        ∃ script ∈ scripted.scripts, script.symbol = "script_engine_init") ∨
        ¬FactorsFit input.project scripted.tables) := by
  have hassembled := assembled_of_compileScripts hok
  have hobject : ∀ stem ∈ ownStems (scripted.sourceInput input.project usedTypes knownTypes),
      stem ∈ reservedStems scripted.tables → stem ∈ objectSymbols scripted.tables :=
    fun stem hown hreserved => mem_objectSymbols_of_mem_reservedStems hassembled hown hreserved
  have hclash : ¬((scripted.files input.project usedTypes knownTypes).map File.name).Nodup ↔
      (∃ symbol ∈ objectSymbols scripted.tables, symbol ∈ reservedStems scripted.tables) ∨
        ∃ script ∈ scripted.scripts, script.symbol = "script_engine_init" := by
    constructor
    · intro h
      obtain ⟨stem, hstem, hreserved⟩ := exists_reserved_of_not_nodup hok h
      rcases List.mem_append.mp hstem with hmem | hown
      · obtain ⟨script, hscript, rfl⟩ := List.mem_map.mp hmem
        exact .inr ⟨script, hscript, symbol_eq_of_mem_reservedStems hok hscript hreserved⟩
      · exact .inl ⟨stem, hobject stem hown hreserved, hreserved⟩
    · rintro (⟨symbol, hsymbol, hreserved⟩ | ⟨script, hscript, hsymbol⟩)
      · exact not_nodup_of_object hok hsymbol hreserved
      · exact not_nodup_of_script hscript hsymbol
  refine ⟨hobject, fun script hscript => symbol_eq_of_mem_reservedStems hok hscript, hclash, ?_⟩
  rw [exists_error_iff hok, hclash]

end

/-! ## Projects that ask for a reserved name -/

/-- A project whose background is called like the picture of frames. -/
def frameInput : Tables.Input :=
  { loneInput copyEvent with
    project :=
      { (loneInput copyEvent).project with
        backgrounds := [{ id := "wall", name := "wall", symbol := "frame_image" }] } }

lemma exists_scripted_frame :
    ∃ scripted, (compileScripts frameInput {} {}).result = .ok scripted ∧
      "frame_image" ∈ scripted.tables.backgrounds.entries.map (·.symbol) ∧
      FactorsFit frameInput.project scripted.tables := by
  obtain ⟨scripted, hok, hcheck⟩ : ∃ scripted,
      (compileScripts frameInput {} {}).result = .ok scripted ∧
        decide ("frame_image" ∈ scripted.tables.backgrounds.entries.map (·.symbol) ∧
          FactorsFit frameInput.project scripted.tables) = true :=
    exists_ok_of_check (by decide +kernel)
  exact ⟨scripted, hok, of_decide_eq_true hcheck⟩

lemma frame_image_mem_reservedStems (tables : Tables) :
    "frame_image" ∈ reservedStems tables := by
  rw [reservedStems_eq]
  exact List.mem_append_right _ (List.mem_append_right _ (by decide))

/-- A project whose scene has a start script that is called like the one of the engine. -/
def engineInput : Tables.Input :=
  { loneInput copyEvent with
    project :=
      { (loneInput copyEvent).project with
        scenes := [{ loneScene copyEvent with symbol := "script_engine" }] } }

/-- A background gets the name of a file that the generator always writes, and the files clash. -/
theorem background_named_frame_image :
    ∃ scripted, (compileScripts frameInput {} {}).result = .ok scripted ∧
      "frame_image" ∈ scripted.tables.backgrounds.entries.map (·.symbol) ∧
      "frame_image" ∈ reservedStems scripted.tables ∧
      ∃ name, scripted.fileSet frameInput.project [] [] = .error (.duplicateFile name) := by
  obtain ⟨scripted, hok, hsymbol, hfits⟩ := exists_scripted_frame
  have hreserved := frame_image_mem_reservedStems scripted.tables
  exact ⟨scripted, hok, hsymbol, hreserved, (exists_duplicateFile_iff hok hfits).mpr
    (not_nodup_of_object hok (List.mem_append_left _ hsymbol) hreserved)⟩

/-- The project with this background is refused for the name of a file of the generator. -/
theorem duplicate_file_reserved_frame :
    ∃ name, (compileProject frameInput {} {}).result = .error (.duplicateFile name) ∧
      ∃ scripted, (compileScripts frameInput {} {}).result = .ok scripted ∧
        name ∈ outputNames (reserved scripted.tables) := by
  obtain ⟨scripted, hok, hsymbol, hfits⟩ := exists_scripted_frame
  obtain ⟨name, he⟩ : ∃ name, scripted.fileSet frameInput.project
      (usedSceneTypes frameInput.project) [] = .error (.duplicateFile name) :=
    (exists_duplicateFile_iff hok hfits).mpr (not_nodup_of_object hok
      (List.mem_append_left _ hsymbol) (frame_image_mem_reservedStems scripted.tables))
  have hclash := (duplicate_file_reserved frameInput {} {}).1 scripted hok
    (usedSceneTypes frameInput.project) []
  rw [he] at hclash
  rcases hclash with ⟨hoverflow, -⟩ | ⟨other, hname, hother⟩
  · cases hoverflow
  · cases hother
    exact ⟨name, compileProject_eq_error (by decide) hok rfl he, scripted, hok, hname⟩

/-- A scene asks for a name from which its start script gets a reserved one. -/
theorem clash_iff_reserved_symbol_engine :
    ∃ scripted, (compileScripts engineInput {} {}).result = .ok scripted ∧
      (∃ script ∈ scripted.scripts, script.symbol = "script_engine_init") ∧
      ¬((scripted.files engineInput.project [] []).map File.name).Nodup ∧
      ∃ e, scripted.fileSet engineInput.project [] [] = .error e := by
  obtain ⟨scripted, hok, hcheck⟩ : ∃ scripted,
      (compileScripts engineInput {} {}).result = .ok scripted ∧
        decide (∃ script ∈ scripted.scripts, script.symbol = "script_engine_init") = true :=
    exists_ok_of_check (by decide +kernel)
  have hscript := of_decide_eq_true hcheck
  obtain ⟨-, -, hclash, hrefused⟩ := clash_iff_reserved_symbol hok [] []
  exact ⟨scripted, hok, hscript, hclash.mpr (.inr hscript), hrefused.mpr (.inl (.inr hscript))⟩

end Cartridge.Compile
