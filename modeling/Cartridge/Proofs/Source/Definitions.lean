import Cartridge.Proofs.Source.References

/-!
# What generated files define

The symbols that a file is said to define are those for which it has the line that defines them
(`defines_scriptFiles`, `defines_dataFiles`), with the signature of the game as the only exception,
which has no bank.  The symbols that were handed out are defined beside those that the generator
makes up itself (`definitions_dataFiles`), and neither of them twice (`definitions_subperm`,
`nodup_ownDefinitions`).
-/

namespace Cartridge.Source

open Cartridge.Script (Compiled Instruction)
open Cartridge.Symbol
open Cartridge.Tables

/-- A file that is no source and no listing defines nothing. -/
lemma defines_of_ending {name : String} {lines : List Line} {products : List WordProduct}
    (stem : String) {x : Char} (hname : name = stem ++ String.ofList ['.', x])
    (hx : x ≠ 'c' ∧ x ≠ 's') (symbol : String) :
    File.Defines ⟨name, [], lines, products⟩ symbol ↔ symbol ∈ ([] : List String) := by
  refine iff_of_false ?_ List.not_mem_nil
  rintro (⟨⟨other, hother⟩, -⟩ | ⟨⟨other, hother⟩, -⟩)
  · exact hx.1 (append_ending_inj (y := 'c') (hname.symm.trans hother)).2
  · exact hx.2 (append_ending_inj (y := 's') (hname.symm.trans hother)).2

/-! ## Tables -/

section

variable {table : Table} {folder : String} {file : File}

lemma mem_filesIn :
    file ∈ table.filesIn folder ↔
      file = ⟨folder ++ table.symbol ++ ".c", table.symbol :: table.helpers,
        bankedLines table.title (table.symbol :: table.helpers) table.headers table.body,
        table.products⟩ ∨
      file =
        ⟨folder ++ table.symbol ++ ".h", [], headerLines table.symbol table.declaration, []⟩ := by
  simp [Table.filesIn]

lemma bankLine_mem_bankedLines (htidy : table.Tidy) {title : String}
    {defines headers : List String} {symbol : String} :
    bankLine symbol ∈ bankedLines title defines headers table.body ↔ symbol ∈ defines := by
  have hbody : bankLine symbol ∉ table.body :=
    fun hmem => (htidy _ hmem).ne_bankLine symbol rfl
  have htext : ∀ {c text}, Starts c text → c ≠ 'B' → ¬bankLine symbol = line text :=
    fun hstart hc heq => hstart.line_ne hc (starts_bankLine symbol) heq.symm
  have hblank : ¬bankLine symbol = blank := by simp [bankLine, line, blank]
  have htitle : ¬bankLine symbol = line ("// " ++ title) :=
    htext (c := '/') (.append rfl) (by decide)
  have hdirective : ∀ {text}, Starts '#' text → ¬bankLine symbol = line text :=
    fun hstart => htext hstart (by decide)
  have hpragma : ¬bankLine symbol = line "#pragma bank 255" := hdirective rfl
  have htypes : ¬bankLine symbol = line "#include \"gbs_types.h\"" := hdirective rfl
  have hbanks : ¬bankLine symbol = line "#include \"bankdata.h\"" := hdirective rfl
  have hheaders : ∀ header, ¬[Piece.include header] = bankLine symbol := by simp [bankLine, line]
  simp only [bankedLines, List.mem_append, List.mem_cons, List.not_mem_nil, List.mem_map, hbody,
    hblank, htitle, hpragma, htypes, hbanks, hheaders, or_false, false_or, and_false, exists_false]
  constructor
  · rintro ⟨other, hother, heq⟩
    obtain rfl := append_mid_inj (line_inj heq)
    exact hother
  · exact fun h => ⟨symbol, h, rfl⟩

lemma defines_filesIn (htidy : table.Tidy) (hfile : file ∈ table.filesIn folder)
    (symbol : String) : file.Defines symbol ↔ symbol ∈ file.defines := by
  rcases mem_filesIn.mp hfile with rfl | rfl
  · constructor
    · rintro (⟨-, hline⟩ | ⟨⟨stem, hname⟩, -⟩)
      · exact (bankLine_mem_bankedLines htidy).mp hline
      · exact absurd (append_ending_inj (x := 'c') (y := 's') hname).2 (by decide)
    · exact fun h => .inl ⟨⟨_, rfl⟩, (bankLine_mem_bankedLines htidy).mpr h⟩
  · exact defines_of_ending _ (x := 'h') rfl (by decide) symbol

/-- A source includes the headers of its table and points to what it has headers for and to what it
defines itself. -/
lemma refers_filesIn (htidy : table.Tidy) (hfile : file ∈ table.filesIn folder) :
    file.Refers table.headers (table.headers ++ table.helpers) := by
  rcases mem_filesIn.mp hfile with rfl | rfl
  · simp only [File.Refers, bankedLines, List.forall_mem_append, List.forall_mem_cons,
      List.forall_mem_map, List.not_mem_nil, false_imp_iff, implies_true, and_true, true_and,
      lineOf_line, lineOf_blank]
    exact ⟨fun header hheader => .header hheader,
      fun pieces hpieces => (htidy pieces hpieces).lineOf table.headers⟩
  · simp [File.Refers, headerLines]

end

/-! ## Listings -/

section

variable {script : Compiled} {file : File}

lemma mem_scriptFiles :
    file ∈ scriptFiles script ↔ file = ⟨script.symbol ++ ".s", [script.symbol],
        script.lines.map line, []⟩ ∨
      file = ⟨script.symbol ++ ".h", [], scriptHeaderLines script.symbol, []⟩ := by
  simp [scriptFiles]

lemma refers_scriptFiles (h : file ∈ scriptFiles script) : file.Refers [] [] := by
  rcases mem_scriptFiles.mp h with rfl | rfl
  · simp [File.Refers]
  · simp [File.Refers, scriptHeaderLines]

/-- Only labels with numbers are not indented. -/
lemma starts_text (instruction : Instruction) : ∃ c, Starts c instruction.text ∧ c ≠ '_' := by
  have hindented : ∀ {text}, Starts ' ' text → ∃ c, Starts c text ∧ c ≠ '_' :=
    fun h => ⟨' ', h, by decide⟩
  cases instruction with
  | label n =>
    obtain ⟨c, rest, hdigits⟩ := List.exists_cons_of_ne_nil (Nat.toDigits_ne_nil (b := 10) (n := n))
    have hdigit : c.isDigit = true :=
      Nat.isDigit_of_mem_toDigits (by decide) (by decide) (hdigits ▸ List.mem_cons_self)
    refine ⟨c, .append ?_, fun heq => ?_⟩
    · rw [Starts, Script.decimal, String.toList_ofList, hdigits]
      rfl
    · rw [heq] at hdigit
      exact absurd hdigit (by decide)
  | comment text => exact hindented (.append (.append rfl))
  | setSpriteMode mode => cases mode <;> exact hindented (.append rfl)
  | jumpIfParameter parameter value target =>
    exact hindented (.append (.append (.append (.append (.append (.append (.append rfl)))))))
  | jump target => exact hindented (.append (.append (.append rfl)))
  | fadeIn speed => exact hindented (.append (.append rfl))
  | callFar symbol => exact hindented (.append (.append (.append (.append rfl))))
  | event count => exact hindented (.append (.append rfl))
  | string text => exact hindented (.append (.append (.append rfl)))
  | branch target name => exact hindented (.append (.append (.append (.append rfl))))
  | idle => exact hindented (.append rfl)
  | stop => exact hindented (.append rfl)
  | returnFar => exact hindented (.append rfl)

/-- The line that gives the bank of a symbol ends otherwise than a label. -/
lemma bank_ne_label (symbol other : String) :
    line ("___bank_" ++ symbol ++ " = 255") ≠ labelLine other := by
  intro heq
  have hlast := congrArg (fun text => text.toList.getLast?) (line_inj heq)
  simp [String.toList_append, List.getLast?_append, List.getLast?_cons] at hlast

/-- A listing has the label of its own symbol and no other. -/
lemma labelLine_mem_lines {symbol : String} :
    labelLine symbol ∈ script.lines.map line ↔ symbol = script.symbol := by
  have hother : ∀ {c text}, Starts c text → c ≠ '_' → line text ≠ labelLine symbol :=
    fun hstart hc => hstart.line_ne hc (starts_labelLine symbol)
  have hdirective : ∀ {text}, Starts '.' text → line text ≠ labelLine symbol :=
    fun hstart => hother hstart (by decide)
  have hempty : line "" ≠ labelLine symbol := by
    intro heq
    have hstart := starts_labelLine symbol
    rw [← line_inj heq] at hstart
    cases hstart
  constructor
  · intro h
    obtain ⟨text, htext, heq⟩ := List.mem_map.mp h
    simp only [Compiled.lines, Script.listingLines, Script.listingHead, List.mem_append,
      List.mem_cons, List.not_mem_nil, or_false] at htext
    rcases htext with ((hhead | hlock) | hlisting)
    · rcases hhead with rfl | rfl | rfl | rfl | rfl | rfl | rfl | rfl | rfl | rfl | rfl
      all_goals first
        | exact (append_mid_inj (line_inj heq)).symm
        | exact absurd heq hempty
        | exact absurd heq (bank_ne_label _ symbol)
        | exact absurd heq (hdirective rfl)
        | exact absurd heq (hdirective (.append rfl))
    · split_ifs at hlock
      · cases List.mem_singleton.mp hlock
        exact absurd heq (hother (c := ' ') (.append rfl) (by decide))
      · cases hlock
    · obtain ⟨instruction, -, rfl⟩ := List.mem_map.mp hlisting
      obtain ⟨c, hstart, hc⟩ := starts_text instruction
      exact absurd heq (hother hstart hc)
  · rintro rfl
    refine List.mem_map.mpr ⟨_, ?_, rfl⟩
    simp [Compiled.lines, Script.listingLines, Script.listingHead]

lemma defines_scriptFiles (h : file ∈ scriptFiles script) (symbol : String) :
    file.Defines symbol ↔ symbol ∈ file.defines := by
  rcases mem_scriptFiles.mp h with rfl | rfl
  · rw [List.mem_singleton]
    constructor
    · rintro (⟨⟨stem, hname⟩, -⟩ | ⟨-, hline⟩)
      · exact absurd (append_ending_inj (x := 's') (y := 'c') hname).2 (by decide)
      · exact labelLine_mem_lines.mp hline
    · exact fun h => .inr ⟨⟨_, rfl⟩, labelLine_mem_lines.mpr h⟩
  · exact defines_of_ending _ (x := 'h') rfl (by decide) symbol

end

/-! ## The files of the whole game -/

/-- The scene that the game starts with. -/
def startScene? (project : Project) (tables : Tables) : Option SceneEntry :=
  (tables.scenes.find? fun s => s.scene.id = project.settings.startSceneId).or tables.scenes.head?

/-- The font of dialogues and menus. -/
def interfaceFont? (project : Project) (tables : Tables) : Option AssetData :=
  (tables.fonts.find? fun f => f.id = project.settings.defaultFontId).or tables.fonts.head?

/-- The headers that every game includes. -/
def fixedHeaders : List String :=
  ["game_globals", "scene_types", "frame_image", "cursor_image", "spritesheet_none"]

lemma exists_output_of_mem_fixedHeaders (tables : Tables) {header : String}
    (h : header ∈ fixedHeaders) :
    ∃ endings, (header, endings) ∈ reserved tables ∧ 'h' ∈ endings := by
  have hcases : ∀ header ∈ fixedHeaders,
      header ∈ ["spritesheet_none", "frame_image", "cursor_image"] ∨
        ∃ output ∈ gameOutputs, output.1 = header ∧ 'h' ∈ output.2 := by decide
  rcases hcases header h with htable | ⟨⟨_, endings⟩, houtput, rfl, hending⟩
  · refine ⟨['c', 'h'], List.mem_append_left _ ?_, by decide⟩
    exact List.mem_map.mpr ⟨header, List.mem_append_right _ htable, rfl⟩
  · exact ⟨endings, List.mem_append_right _ houtput, hending⟩

/-- The symbols that start the game. -/
def startSymbols (project : Project) (tables : Tables) : List String :=
  ((startScene? project tables).map (·.symbol)).toList ++
    ((interfaceFont? project tables).map (·.symbol)).toList

lemma refers_bootstrapFile (project : Project) (tables : Tables) :
    (bootstrapFile project tables).Refers (startSymbols project tables ++ fixedHeaders)
      (startSymbols project tables) := by
  have hfixed : ∀ header ∈ fixedHeaders,
      LineOf (startSymbols project tables ++ fixedHeaders) (startSymbols project tables)
        [.include header] :=
    fun header hheader => .header (List.mem_append_right _ hheader)
  have hscene : ∀ name ∈ (startScene? project tables).map (·.symbol),
      name ∈ startSymbols project tables :=
    fun name hname => List.mem_append_left _ (Option.mem_toList.mpr hname)
  have hfont : ∀ name ∈ (interfaceFont? project tables).map (·.symbol),
      name ∈ startSymbols project tables :=
    fun name hname => List.mem_append_right _ (Option.mem_toList.mpr hname)
  simp only [File.Refers, bootstrapFile, List.forall_mem_append, List.forall_mem_cons,
    List.forall_mem_map, List.not_mem_nil, false_imp_iff, implies_true, and_true, true_and,
    lineOf_line, lineOf_blank]
  refine ⟨⟨⟨⟨⟨hfixed _ (by decide), hfixed _ (by decide)⟩, fun header hheader => ?_⟩,
      fun header hheader => ?_⟩, hfixed _ (by decide), hfixed _ (by decide), hfixed _ (by decide)⟩,
    .pointer _ _ [] hscene, .pointer _ _ [] hfont⟩
  · exact .header (List.mem_append_left _ (hscene header (Option.mem_toList.mp hheader)))
  · exact .header (List.mem_append_left _ (hfont header (Option.mem_toList.mp hheader)))

lemma refers_musicFile (music : List AssetData) :
    (musicFile music).Refers (music.map (·.symbol)) [] := by
  simp only [File.Refers, musicFile, List.forall_mem_append, List.forall_mem_cons,
    List.forall_mem_map, List.not_mem_nil, false_imp_iff, implies_true, and_true, true_and,
    lineOf_line, lineOf_blank]
  exact fun piece hpiece => .header (List.mem_map.mpr ⟨piece, hpiece, rfl⟩)

section

variable {input : Input} {file : File}

lemma defines_gameFiles (h : file ∈ musicFile input.tables.music :: endFiles input)
    {symbol : String} (hsymbol : symbol ≠ "game_signature") :
    file.Defines symbol ↔ symbol ∈ file.defines := by
  simp only [endFiles, globalsFiles, List.mem_append, List.mem_cons, List.not_mem_nil,
    or_false] at h
  rcases h with rfl | ((((rfl | rfl) | rfl | rfl) | hengine) | rfl)
  · exact defines_of_ending "music_data" (x := 'h') rfl (by decide) symbol
  · exact defines_of_ending "game_globals" (x := 'i') rfl (by decide) symbol
  · exact defines_of_ending "game_globals" (x := 'h') rfl (by decide) symbol
  · exact defines_of_ending "scene_types" (x := 'h') rfl (by decide) symbol
  · exact defines_of_ending "data_bootstrap" (x := 'h') rfl (by decide) symbol
  · exact defines_scriptFiles hengine symbol
  · refine iff_of_false ?_ (List.mem_singleton.not.mpr hsymbol)
    rintro (⟨-, hline⟩ | ⟨⟨stem, hname⟩, -⟩)
    · have htext : ∀ {c text}, Starts c text → c ≠ 'B' → bankLine symbol ≠ line text :=
        fun hstart hc heq => hstart.line_ne hc (starts_bankLine symbol) heq.symm
      have hblank : bankLine symbol ≠ blank := by simp [bankLine, line, blank]
      simp only [signatureFile, List.mem_cons, List.not_mem_nil, or_false, hblank,
        false_or] at hline
      rcases hline with hline | hline | hline
      · exact absurd hline (htext (c := '#') rfl (by decide))
      · exact absurd hline (htext (c := '#') rfl (by decide))
      · exact absurd hline (htext (c := 'c') (.append (.append rfl)) (by decide))
    · have hending := append_ending_inj (a := "game_signature") (x := 'c') (y := 's') hname
      exact absurd hending.2 (by decide)

lemma LineOf.mono {headers targets headers' targets' : List String} {pieces : Line}
    (h : LineOf headers targets pieces) (hheaders : headers ⊆ headers')
    (htargets : targets ⊆ targets') : LineOf headers' targets' pieces := by
  cases h with
  | text texts => exact .text texts
  | header hheader => exact .header (hheaders hheader)
  | pointer before symbol after hsymbol =>
    exact .pointer before symbol after fun name hname => htargets (hsymbol name hname)

lemma File.Refers.mono {headers targets headers' targets' : List String}
    (h : file.Refers headers targets) (hheaders : headers ⊆ headers')
    (htargets : targets ⊆ targets') : file.Refers headers' targets' :=
  fun pieces hpieces => (h pieces hpieces).mono hheaders htargets

lemma refers_gameFiles (h : file ∈ musicFile input.tables.music :: endFiles input) :
    file.Refers (input.tables.music.map (·.symbol) ++
        (startSymbols input.project input.tables ++ fixedHeaders))
      (startSymbols input.project input.tables) := by
  simp only [endFiles, globalsFiles, List.mem_append, List.mem_cons, List.not_mem_nil,
    or_false] at h
  rcases h with rfl | ((((rfl | rfl) | rfl | rfl) | hengine) | rfl)
  · exact (refers_musicFile _).mono (List.subset_append_left _ _) (List.nil_subset _)
  · simp only [File.Refers, List.forall_mem_map, lineOf_line, implies_true]
  · simp only [File.Refers, List.forall_mem_append, List.forall_mem_cons, List.forall_mem_map]
    simp
  · simp only [File.Refers, sceneTypesFile, List.forall_mem_append, List.forall_mem_cons,
      List.forall_mem_flatMap]
    simp
  · exact (refers_bootstrapFile _ _).mono (List.subset_append_right _ _) (List.Subset.refl _)
  · exact (refers_scriptFiles hengine).mono (List.nil_subset _) (List.nil_subset _)
  · simp [File.Refers, signatureFile]

end

/-! ## All files of the tables -/

/-- The pictures of the letters of the fonts. -/
def fontBitmaps (tables : Tables) : List String :=
  tables.fonts.map fun font => companion font.symbol "bitmaps"

/-- The pictures of the fonts of avatars. -/
def avatarBitmaps (tables : Tables) : List String :=
  (List.range (avatarTables tables.avatars).length).map fun n =>
    companion (Allocator.numbered "avatar_font" n) "bitmaps"

lemma helpers_fontTable (symbol title : String) (data : List UInt8) :
    (fontTable symbol title data).helpers = [companion symbol "bitmaps"] := by
  rw [companion_eq]
  rfl

lemma helpers_avatarTables (avatars : List AssetData) :
    (avatarTables avatars).flatMap (·.helpers) =
      (List.range (avatarTables avatars).length).map fun n =>
        companion (Allocator.numbered "avatar_font" n) "bitmaps" := by
  have hhelpers : ∀ table ∈ avatarTables avatars,
      table.helpers = [companion table.symbol "bitmaps"] := by
    simp only [avatarTables, List.forall_mem_map, helpers_fontTable]
    exact fun group _ => rfl
  rw [List.flatMap_congr hhelpers, ← List.map_eq_flatMap]
  have hsymbols := congrArg (List.map fun symbol => companion symbol "bitmaps")
    (symbols_avatarTables avatars)
  rwa [List.map_map, List.map_map] at hsymbols

lemma helpers_sceneTables {tables : Tables} {types : List String} {entry : SceneEntry}
    {scripts : Compile.SceneScripts} :
    ∀ table ∈ sceneTables tables types entry scripts, table.helpers = [] := by
  simp only [sceneTables, List.forall_mem_append, List.forall_mem_singleton, Option.mem_toList]
  refine ⟨⟨⟨⟨⟨rfl, ?_⟩, ?_⟩, ?_⟩, ?_⟩, rfl⟩
  all_goals
    intro table htable
    obtain rfl := eq_of_mem_optional htable
    rfl

/-- Only fonts define more than their own symbol. -/
lemma helpers_allTables (input : Input) :
    (allTables input).flatMap (·.helpers) =
      fontBitmaps input.tables ++ avatarBitmaps input.tables := by
  have hscenes : (allSceneTables input).flatMap (·.helpers) = [] := by
    simp only [allSceneTables, List.flatMap_eq_nil_iff, List.forall_mem_flatMap]
    exact fun pair _ => helpers_sceneTables
  have hmusic : (musicTables input.tables.music).flatMap (·.helpers) = [] := by
    simp [musicTables, bytesTable]
  have hfonts : (input.tables.fonts.map fun f =>
      fontTable f.symbol ("Font: " ++ f.name) f.data).flatMap (·.helpers) =
        fontBitmaps input.tables := by
    rw [List.flatMap_map, fontBitmaps, List.map_eq_flatMap]
    exact List.flatMap_congr fun font _ => helpers_fontTable _ _ _
  have hnone : ∀ {α : Type} (items : List α), items.flatMap (fun _ => ([] : List String)) = [] :=
    fun items => List.flatMap_eq_nil_iff.mpr fun _ _ => rfl
  simp only [allTables, assetTables, List.flatMap_append, hscenes, hmusic, hfonts,
    helpers_avatarTables]
  simp [tilesetTable, bytesTable, backgroundTable, paletteTable, spriteTable, emptySheetTable,
    sheetTable, List.flatMap_map, avatarBitmaps, hnone]

lemma nodup_fontTable (symbol title : String) (data : List UInt8) :
    ((fontTable symbol title data).symbol :: (fontTable symbol title data).helpers).Nodup := by
  rw [helpers_fontTable, List.nodup_cons, List.mem_singleton]
  exact ⟨(companion_ne symbol "bitmaps").symm, List.nodup_singleton _⟩

/-- No table defines a symbol twice. -/
lemma nodup_allTables (input : Input) :
    ∀ table ∈ allTables input, (table.symbol :: table.helpers).Nodup := by
  have hplain : ∀ {table : Table}, table.helpers = [] → (table.symbol :: table.helpers).Nodup := by
    intro table htable
    rw [htable]
    exact List.nodup_singleton _
  have hassets : ∀ table ∈ assetTables input.tables, (table.symbol :: table.helpers).Nodup := by
    simp only [assetTables, avatarTables, List.forall_mem_append, List.forall_mem_map,
      List.forall_mem_cons, List.not_mem_nil, false_imp_iff, implies_true, and_true,
      nodup_fontTable]
    simp [tilesetTable, bytesTable, backgroundTable, paletteTable, spriteTable, emptySheetTable,
      sheetTable]
  simp only [allTables, allSceneTables, musicTables, List.forall_mem_append, List.forall_mem_map,
    List.forall_mem_flatMap]
  exact ⟨⟨hassets, fun _ _ table htable => hplain (helpers_sceneTables table htable)⟩,
    fun _ _ => hplain rfl⟩

section

variable {input : Input} {file : File}

lemma mem_dataFiles :
    file ∈ dataFiles input ↔ (∃ table ∈ allTables input, file ∈ table.filesIn "") ∨
      (∃ sound ∈ input.tables.sounds,
        file ∈ (bytesTable sound.symbol ("Sound: " ++ sound.name) sound.data).filesIn "sounds/") ∨
      file ∈ musicFile input.tables.music :: endFiles input := by
  simp only [dataFiles, endFiles, soundFiles, allTables, Table.files, List.mem_append,
    List.mem_flatMap, List.mem_cons, List.not_mem_nil, or_false]
  grind

lemma defines_dataFiles (h : file ∈ dataFiles input) {symbol : String}
    (hsymbol : symbol ≠ "game_signature") : file.Defines symbol ↔ symbol ∈ file.defines := by
  rcases mem_dataFiles.mp h with ⟨table, htable, hfile⟩ | ⟨sound, -, hfile⟩ | hgame
  · exact defines_filesIn (tidy_allTables input table htable) hfile symbol
  · exact defines_filesIn (tidy_bytesTable _ _ _) hfile symbol
  · exact defines_gameFiles hgame hsymbol

lemma nodup_defines (h : file ∈ dataFiles input) : file.defines.Nodup := by
  have htable : ∀ {table : Table} {folder}, (table.symbol :: table.helpers).Nodup →
      file ∈ table.filesIn folder → file.defines.Nodup := by
    intro table folder hnodup hfile
    rcases mem_filesIn.mp hfile with rfl | rfl
    · exact hnodup
    · exact List.nodup_nil
  rcases mem_dataFiles.mp h with ⟨table, hmem, hfile⟩ | ⟨sound, -, hfile⟩ | hgame
  · exact htable (nodup_allTables input table hmem) hfile
  · exact htable (List.nodup_singleton _) hfile
  · simp only [endFiles, globalsFiles, engineInitFiles, scriptFiles, List.mem_append, List.mem_cons,
      List.not_mem_nil, or_false] at hgame
    rcases hgame with rfl | ((((rfl | rfl) | rfl | rfl) | rfl | rfl) | rfl)
    all_goals first | exact List.nodup_nil | exact List.nodup_singleton _

/-- The symbols that the generator defines without having asked for them. -/
def ownDefinitions (tables : Tables) : List String :=
  reservedTables tables ++ avatarBitmaps tables ++ ["script_engine_init", "game_signature"]

/-- The symbols that the files of the tables define: those of the objects with the pictures of the
fonts, those of the sounds, and those that the generator makes up. -/
lemma definitions_dataFiles (input : Input) :
    ((dataFiles input).flatMap File.defines).Perm
      (ownStems input ++ fontBitmaps input.tables ++ input.tables.sounds.map (·.symbol) ++
        ownDefinitions input.tables) := by
  have htables : ((allTables input).flatMap Table.files).flatMap File.defines =
      (allTables input).flatMap fun table => table.symbol :: table.helpers := by
    rw [List.flatMap_assoc]
    simp [Table.files, Table.filesIn]
  have hsounds : (soundFiles input.tables.sounds).flatMap File.defines =
      input.tables.sounds.map (·.symbol) := by
    rw [soundFiles, List.flatMap_assoc, List.map_eq_flatMap]
    rfl
  have hends : (endFiles input).flatMap File.defines = ["script_engine_init", "game_signature"] :=
    rfl
  have hdata : (dataFiles input).flatMap File.defines =
      ((allTables input).flatMap fun table => table.symbol :: table.helpers) ++
        (input.tables.sounds.map (·.symbol) ++ ["script_engine_init", "game_signature"]) := by
    rw [← htables, ← hsounds, ← hends, ← List.flatMap_append, ← List.flatMap_append]
    simp only [dataFiles, endFiles, allTables, List.append_assoc, List.flatMap_append]
    rfl
  rw [hdata, List.perm_iff_count]
  intro symbol
  have hsplit := (List.map_append_flatMap_perm (allTables input) (fun table => table.symbol)
    (fun table => table.helpers)).count_eq symbol
  have hsymbols := (symbols_tables input).count_eq symbol
  have hhelpers := congrArg (List.count symbol) (helpers_allTables input)
  rw [← allTables] at hsymbols
  simp only [ownDefinitions, List.count_append] at hsplit hsymbols hhelpers ⊢
  omega

lemma startSymbols_subset (hlength : input.tables.scenes.length ≤ input.scripts.length) :
    startSymbols input.project input.tables ⊆ ownStems input := by
  intro symbol hsymbol
  simp only [startSymbols, List.mem_append, Option.mem_toList, Option.map_eq_some_iff] at hsymbol
  rcases hsymbol with ⟨entry, hentry, rfl⟩ | ⟨font, hfont, rfl⟩
  · have hmem : entry ∈ input.tables.scenes := by
      rcases Option.or_eq_some_iff.mp hentry with hfound | ⟨-, hfirst⟩
      · exact List.mem_of_find?_eq_some hfound
      · exact List.mem_of_head? hfirst
    refine objectSymbols_subset hlength ?_
    simp only [objectSymbols, List.mem_append]
    exact .inr (.inr (.inr (.inr (.inr (.inr (List.mem_map.mpr ⟨entry, hmem, rfl⟩))))))
  · have hmem : font ∈ input.tables.fonts := by
      rcases Option.or_eq_some_iff.mp hfont with hfound | ⟨-, hfirst⟩
      · exact List.mem_of_find?_eq_some hfound
      · exact List.mem_of_head? hfirst
    simp only [ownStems, List.mem_append]
    exact .inr (.inr (.inr (.inl (List.mem_map.mpr ⟨font, hmem, rfl⟩))))

lemma mem_ownStems_of_music {symbol : String} (h : symbol ∈ input.tables.music.map (·.symbol)) :
    symbol ∈ ownStems input := by
  simp only [ownStems, List.mem_append]
  exact .inr (.inr (.inr (.inr (.inr (.inl h)))))

variable {scripts : List String}

lemma includes_dataFiles (hcomplete : Complete input.tables)
    (hscripts : ∀ own ∈ input.scripts, own.symbols ⊆ scripts)
    (hlength : input.tables.scenes.length ≤ input.scripts.length) (hfile : file ∈ dataFiles input)
    {header : String} (hheader : header ∈ file.includes) :
    Linked input scripts header ∨ header ∈ fixedHeaders := by
  rcases mem_dataFiles.mp hfile with ⟨table, htable, hfile⟩ | ⟨sound, -, hfile⟩ | hgame
  · have hmem := (refers_filesIn (tidy_allTables input table htable) hfile).mem_headers hheader
    exact .inl (linked_headers hcomplete hscripts table htable header hmem)
  · cases (refers_filesIn (tidy_bytesTable _ _ _) hfile).mem_headers hheader
  · have hmem := (refers_gameFiles hgame).mem_headers hheader
    rw [List.mem_append, List.mem_append] at hmem
    rcases hmem with hmusic | hstart | hfixed
    · exact .inl (.inr (.inl (mem_ownStems_of_music hmusic)))
    · exact .inl (.inr (.inl (startSymbols_subset hlength hstart)))
    · exact .inr hfixed

lemma pointers_dataFiles (hcomplete : Complete input.tables)
    (hscripts : ∀ own ∈ input.scripts, own.symbols ⊆ scripts)
    (hlength : input.tables.scenes.length ≤ input.scripts.length) (hfile : file ∈ dataFiles input)
    {symbol : String} (hsymbol : symbol ∈ file.pointers) :
    Linked input scripts symbol ∨
      symbol ∈ fontBitmaps input.tables ++ avatarBitmaps input.tables := by
  rcases mem_dataFiles.mp hfile with ⟨table, htable, hfile⟩ | ⟨sound, -, hfile⟩ | hgame
  · have hmem := (refers_filesIn (tidy_allTables input table htable) hfile).mem_targets hsymbol
    rcases List.mem_append.mp hmem with hheader | hhelper
    · exact .inl (linked_headers hcomplete hscripts table htable symbol hheader)
    · rw [← helpers_allTables]
      exact .inr (List.mem_flatMap.mpr ⟨table, htable, hhelper⟩)
  · cases (refers_filesIn (tidy_bytesTable _ _ _) hfile).mem_targets hsymbol
  · have hmem := (refers_gameFiles hgame).mem_targets hsymbol
    exact .inl (.inr (.inl (startSymbols_subset hlength hmem)))

end

/-! ## Symbols that are made up -/

lemma companion_left_inj {first second suffix : String}
    (h : companion first suffix = companion second suffix) : first = second := by
  have hchars := congrArg String.toList h
  simp only [companion, String.toList_append] at hchars
  exact String.toList_injective (List.append_cancel_right (List.append_cancel_right hchars))

lemma lastWord_bitmaps (name : String) :
    lastWord (companion name "bitmaps").toList = "bitmaps".toList := by
  rw [companion, lastWord_append]
  exact lastWord_eq_self (by decide)

section

variable {tables : Tables} {symbol : String}

lemma lastWord_of_mem_avatarBitmaps (h : symbol ∈ avatarBitmaps tables) :
    lastWord symbol.toList = "bitmaps".toList := by
  obtain ⟨n, -, rfl⟩ := List.mem_map.mp h
  exact lastWord_bitmaps _

/-- The pictures of an avatar font belong to a font with a reserved name. -/
lemma mem_reservedStems_of_avatarBitmaps {name : String}
    (h : companion name "bitmaps" ∈ avatarBitmaps tables) : name ∈ reservedStems tables := by
  obtain ⟨n, hn, heq⟩ := List.mem_map.mp h
  obtain rfl := companion_left_inj heq
  rw [reservedStems_eq]
  exact List.mem_append_right _ (List.mem_append_left _ (List.mem_map.mpr ⟨n, hn, rfl⟩))

lemma avatarBitmaps_not_mem_reservedStems (h : symbol ∈ avatarBitmaps tables) :
    symbol ∉ reservedStems tables := by
  obtain ⟨n, -, rfl⟩ := List.mem_map.mp h
  exact companion_not_mem_reservedStems (by decide) _ tables

lemma mem_ownDefinitions (h : symbol ∈ ownDefinitions tables) :
    symbol ∈ reservedStems tables ∨ symbol ∈ avatarBitmaps tables := by
  simp only [ownDefinitions, List.mem_append] at h
  rcases h with (htable | havatar) | hgame
  · rw [reservedStems, reserved, List.map_append, map_fst_tableOutput]
    exact .inl (List.mem_append_left _ htable)
  · exact .inr havatar
  · have hfixed : ∀ name ∈ ["script_engine_init", "game_signature"], name ∈ fixedStems := by decide
    rw [reservedStems_eq]
    exact .inl (List.mem_append_right _ (List.mem_append_right _ (hfixed symbol hgame)))

end

/-- The generator defines nothing twice. -/
lemma nodup_ownDefinitions (tables : Tables) : (ownDefinitions tables).Nodup := by
  have hreserved := nodup_reservedStems tables
  have hgame : ["script_engine_init", "game_signature"].Sublist (gameOutputs.map Prod.fst) := by
    decide
  rw [reservedStems, reserved, List.map_append, map_fst_tableOutput] at hreserved
  have hnamed := hreserved.sublist ((List.Sublist.refl (reservedTables tables)).append hgame)
  have havatars : (avatarBitmaps tables).Nodup :=
    List.nodup_range.map fun _ _ heq => (numbered_inj (companion_left_inj heq)).2
  rw [List.nodup_iff_count_le_one] at hnamed havatars ⊢
  intro symbol
  have hcount := hnamed symbol
  have hcount' := havatars symbol
  simp only [ownDefinitions, List.count_append] at hcount ⊢
  by_cases havatar : symbol ∈ avatarBitmaps tables
  · have hnot := avatarBitmaps_not_mem_reservedStems havatar
    rw [reservedStems, reserved, List.map_append, map_fst_tableOutput, List.mem_append,
      not_or] at hnot
    rw [List.count_eq_zero.mpr hnot.1,
      List.count_eq_zero.mpr fun hmem => hnot.2 (hgame.subset hmem)]
    omega
  · rw [List.count_eq_zero.mpr havatar]
    omega

/-! ## Symbols that were handed out -/

lemma bitmaps_sublist (symbols : List String) :
    (symbols.flatMap fun symbol => [symbol, companion symbol "bitmaps"]).Sublist
      (symbols.flatMap family) := by
  refine List.Sublist.flatMap_right _ fun symbol _ => ?_
  have hsuffix : ["bitmaps"].Sublist companionSuffixes := by decide
  exact (hsuffix.map (companion symbol)).cons_cons symbol

/-- What objects and sounds define has names of their families, none of them twice. -/
lemma definitions_subperm (input : Input) (h : Assembled input.tables) :
    (ownStems input ++ fontBitmaps input.tables ++ input.tables.sounds.map (·.symbol)).Subperm
      ((objectSymbols input.tables ++ input.tables.sounds.map (·.symbol)).flatMap family) := by
  have hfonts : (input.tables.fonts.map (·.symbol) ++ fontBitmaps input.tables).Subperm
      ((input.tables.fonts.map (·.symbol)).flatMap family) := by
    have hperm := List.map_append_flatMap_perm (input.tables.fonts.map (·.symbol)) id
      fun symbol => [companion symbol "bitmaps"]
    rw [List.map_id, ← List.map_eq_flatMap, List.map_map] at hperm
    exact hperm.subperm.trans (bitmaps_sublist _).subperm
  have hself := fun symbols => (sublist_flatMap_family symbols).subperm
  rw [List.subperm_ext_iff]
  intro name _
  have hbackgrounds := h.backgrounds.count_le name
  have hsprites := h.sprites.count_le name
  have hcount := hfonts.count_le name
  have hscenes := (stems_allSceneTables input).count_le name
  have htilesets := (hself (input.tables.tilesets.map (·.symbol))).count_le name
  have hemotes := (hself (input.tables.emotes.map (·.symbol))).count_le name
  have hmusic := (hself (input.tables.music.map (·.symbol))).count_le name
  have hsounds := (hself (input.tables.sounds.map (·.symbol))).count_le name
  simp only [ownStems, objectSymbols, List.flatMap_append, List.count_append] at hcount ⊢
  omega

lemma objects_subperm (tables : Tables) :
    (objectSymbols tables ++ tables.sounds.map (·.symbol)).Subperm tables.symbols := by
  have hscenes : (tables.scenes.map (·.symbol)).Sublist
      (tables.scenes.flatMap SceneEntry.symbols) :=
    map_sublist_flatMap (fun _ => List.mem_cons_self) _
  rw [List.subperm_ext_iff]
  intro name _
  have hcount := hscenes.count_le name
  simp only [objectSymbols, Tables.symbols, List.count_append]
  omega

end Cartridge.Source
