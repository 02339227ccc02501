import Cartridge.Proofs.Source.Reserved
import Cartridge.Proofs.Tables.References

/-!
# What generated files refer to

A file includes headers, points to symbols and defines symbols, and all three can be read off its
lines (`File.Refers`, `File.Defines`).  The body of a table includes nothing and
defines nothing, and it points only to what has a header among the headers of the table or is
defined by the table itself (`Table.Tidy`).  So it is enough to look at the headers: those of a
table belong to scripts, to tables of objects or to palettes (`linked_headers`).
-/

/-- The symbols of the scripts of a scene. -/
def Cartridge.Compile.SceneScripts.symbols (scripts : Cartridge.Compile.SceneScripts) :
    List String :=
  scripts.init.toList ++ scripts.playerHit.toList ++ scripts.actors.filterMap id ++
    scripts.updates.filterMap id ++ scripts.triggers.filterMap id

namespace Cartridge.Source

open Cartridge.Compile (SceneScripts)
open Cartridge.Symbol
open Cartridge.Tables

/-! ## Includes, pointers and definitions -/

lemma mem_filterMap_flatten {lines : List Line} {name? : Piece → Option String} {name : String}
    {piece : Piece} (h : ∀ other, name? other = some name ↔ other = piece) :
    name ∈ lines.flatten.filterMap name? ↔ ∃ pieces ∈ lines, piece ∈ pieces := by
  simp only [List.mem_filterMap, List.mem_flatten, h, exists_eq_right]

lemma mem_includes {file : File} {header : String} :
    header ∈ file.includes ↔ ∃ pieces ∈ file.lines, Piece.include header ∈ pieces :=
  mem_filterMap_flatten fun other => by cases other <;> simp

lemma mem_pointers {file : File} {symbol : String} :
    symbol ∈ file.pointers ↔ ∃ pieces ∈ file.lines, Piece.pointer (some symbol) ∈ pieces :=
  mem_filterMap_flatten fun other => by cases other <;> simp

/-- A line of text, a line that includes one of the headers, or one that points to one of the
targets. -/
inductive LineOf (headers targets : List String) : Line → Prop
  | text (texts : List String) : LineOf headers targets (texts.map .text)
  | header {header : String} (hheader : header ∈ headers) :
    LineOf headers targets [.include header]
  | pointer (before : String) (symbol : Option String) (after : List String)
    (hsymbol : ∀ name ∈ symbol, name ∈ targets) :
    LineOf headers targets (.text before :: .pointer symbol :: after.map .text)

@[simp] lemma lineOf_line {headers targets : List String} (text : String) :
    LineOf headers targets (line text) :=
  .text [text]

@[simp] lemma lineOf_blank {headers targets : List String} : LineOf headers targets blank :=
  .text []

/-- The file includes only these headers and points only to these targets. -/
def File.Refers (file : File) (headers targets : List String) : Prop :=
  ∀ pieces ∈ file.lines, LineOf headers targets pieces

namespace File.Refers

variable {file : File} {headers targets : List String}

lemma mem_headers (h : file.Refers headers targets) {header : String}
    (hheader : header ∈ file.includes) : header ∈ headers := by
  obtain ⟨pieces, hpieces, hmem⟩ := mem_includes.mp hheader
  cases h pieces hpieces with
  | text texts => simp at hmem
  | header hother =>
    cases List.mem_singleton.mp hmem
    exact hother
  | pointer before symbol after => simp at hmem

lemma mem_targets (h : file.Refers headers targets) {symbol : String}
    (hsymbol : symbol ∈ file.pointers) : symbol ∈ targets := by
  obtain ⟨pieces, hpieces, hmem⟩ := mem_pointers.mp hsymbol
  cases h pieces hpieces with
  | text texts => simp at hmem
  | header hother => simp at hmem
  | pointer before target after htarget =>
    refine htarget symbol ?_
    simpa [eq_comm] using hmem

end File.Refers

/-- The line by which a source defines a symbol with its bank. -/
def bankLine (symbol : String) : Line :=
  line ("BANKREF(" ++ symbol ++ ")")

/-- The line by which a listing defines a symbol. -/
def labelLine (symbol : String) : Line :=
  line ("_" ++ symbol ++ "::")

/-- The file is a source or a listing with the line that defines the symbol. -/
def File.Defines (file : File) (symbol : String) : Prop :=
  (∃ stem, file.name = stem ++ ".c") ∧ bankLine symbol ∈ file.lines ∨
    (∃ stem, file.name = stem ++ ".s") ∧ labelLine symbol ∈ file.lines

variable {first second : String}

lemma line_inj (h : line first = line second) : first = second := by
  cases h
  rfl

lemma append_mid_inj {before after : String}
    (h : before ++ first ++ after = before ++ second ++ after) : first = second := by
  have hchars := congrArg String.toList h
  simp only [String.toList_append] at hchars
  exact String.toList_injective (List.append_cancel_left (List.append_cancel_right hchars))

/-- A text starts with a character. -/
def Starts (c : Char) (text : String) : Prop :=
  text.toList.head? = some c

lemma Starts.append {c : Char} (h : Starts c first) :
    Starts c (first ++ second) := by
  rw [Starts, String.toList_append, List.head?_append, h]
  rfl

lemma Starts.line_ne {c other : Char} (h : Starts c first) (hc : c ≠ other)
    (hother : Starts other second) : line first ≠ line second := by
  intro heq
  rw [← line_inj heq, Starts, h] at hother
  exact hc (Option.some.inj hother)

lemma starts_bankLine (symbol : String) : Starts 'B' ("BANKREF(" ++ symbol ++ ")") :=
  .append (.append rfl)

lemma starts_labelLine (symbol : String) : Starts '_' ("_" ++ symbol ++ "::") :=
  .append (.append rfl)

/-! ## The bodies of tables -/

/-- A line of the body of a table: text that defines nothing, or a pointer to one of the
targets. -/
inductive BodyLine (targets : List String) : Line → Prop
  | text {c : Char} {text : String} (hstart : Starts c text) (hc : c ≠ 'B') :
    BodyLine targets (line text)
  | blank : BodyLine targets blank
  | pointer (before : String) (symbol : Option String) (after : List String)
    (hsymbol : ∀ name ∈ symbol, name ∈ targets) :
    BodyLine targets (.text before :: .pointer symbol :: after.map .text)

namespace BodyLine

variable {targets : List String} {pieces : Line}

lemma lineOf (h : BodyLine targets pieces) (headers : List String) :
    LineOf headers targets pieces := by
  cases h with
  | text => exact .text [_]
  | blank => exact .text []
  | pointer before symbol after hsymbol => exact .pointer before symbol after hsymbol

lemma ne_bankLine (h : BodyLine targets pieces) (symbol : String) : pieces ≠ bankLine symbol := by
  cases h with
  | text hstart hc => exact hstart.line_ne hc (starts_bankLine symbol)
  | blank => simp [Source.blank, bankLine, line]
  | pointer => simp [bankLine, line]

lemma text_or_pointer (h : BodyLine targets pieces) {piece : Piece} (hpiece : piece ∈ pieces) :
    (∃ text, piece = .text text) ∨
      ∃ symbol, piece = .pointer symbol ∧ ∀ name ∈ symbol, name ∈ targets := by
  cases h with
  | text => exact .inl ⟨_, List.mem_singleton.mp hpiece⟩
  | blank => cases hpiece
  | pointer before symbol after hsymbol =>
    rcases List.mem_cons.mp hpiece with rfl | hpiece
    · exact .inl ⟨before, rfl⟩
    · rcases List.mem_cons.mp hpiece with rfl | hpiece
      · exact .inr ⟨symbol, rfl, hsymbol⟩
      · obtain ⟨text, -, rfl⟩ := List.mem_map.mp hpiece
        exact .inl ⟨text, rfl⟩

lemma indented {text : String} (h : Starts ' ' text) : BodyLine targets (line text) :=
  .text h (by decide)

lemma declaration {text : String} (h : Starts 'c' text) : BodyLine targets (line text) :=
  .text h (by decide)

/-- The end of a declaration. -/
lemma close : BodyLine targets (line "\x7d;") :=
  .text (rfl : Starts '\x7d' "\x7d;") (by decide)

end BodyLine

/-- The body of a table points to what it has headers for and to what the table itself defines. -/
def Table.Tidy (table : Table) : Prop :=
  ∀ pieces ∈ table.body, BodyLine (table.headers ++ table.helpers) pieces

/-! ## Data -/

lemma bodyLine_byteArrayLines {targets : List String} (symbol : String) (data : List UInt8) :
    ∀ pieces ∈ byteArrayLines symbol data, BodyLine targets pieces := by
  simp only [byteArrayLines, byteRows, List.cons_append, List.forall_mem_cons,
    List.forall_mem_append, List.forall_mem_map, List.not_mem_nil, false_imp_iff, implies_true,
    and_true]
  exact ⟨.declaration (.append (.append rfl)), fun row _ => .indented (.append (.append rfl)),
    .close⟩

lemma tidy_bytesTable (symbol title : String) (data : List UInt8) :
    (bytesTable symbol title data).Tidy :=
  bodyLine_byteArrayLines symbol data

lemma tidy_collisionsTable (entry : SceneEntry) : (collisionsTable entry).Tidy :=
  tidy_bytesTable _ ("Scene " ++ entry.name ++ " collisions") _

lemma tidy_tilesetTable (symbol title : String) (data : List UInt8) :
    (tilesetTable symbol title data).Tidy := by
  simp only [Table.Tidy, tilesetTable, byteRows, List.cons_append, List.nil_append,
    List.forall_mem_cons, List.forall_mem_append, List.forall_mem_map, List.not_mem_nil,
    false_imp_iff, implies_true, and_true]
  exact ⟨.declaration (.append (.append rfl)), .indented (.append (.append rfl)), .indented rfl,
    fun row _ => .indented (.append rfl), .indented rfl, .close⟩

lemma tidy_fontTable (symbol title : String) (data : List UInt8) :
    (fontTable symbol title data).Tidy := by
  simp only [Table.Tidy, fontTable, List.forall_mem_cons, List.forall_mem_append,
    List.not_mem_nil, false_imp_iff, implies_true, and_true]
  refine ⟨bodyLine_byteArrayLines _ data, .blank, .declaration (.append (.append rfl)),
    .indented rfl, .pointer _ _ [] ?_, .close⟩
  simp

lemma tidy_paletteTable (symbol : String) (set : PaletteSet) : (paletteTable symbol set).Tidy := by
  simp only [Table.Tidy, paletteTable, List.cons_append, List.nil_append, List.forall_mem_cons,
    List.forall_mem_append, List.forall_mem_map, List.not_mem_nil, false_imp_iff, implies_true,
    and_true]
  exact ⟨.declaration (.append (.append rfl)), .indented (.append (.append rfl)),
    .indented (.append (.append (.append (.append rfl)))), .indented rfl,
    fun colors _ => .indented (.append (.append rfl)), .indented rfl, .close⟩

lemma tidy_backgroundTable (entry : BackgroundEntry) : (backgroundTable entry).Tidy := by
  simp only [Table.Tidy, backgroundTable, List.forall_mem_cons, List.not_mem_nil, false_imp_iff,
    implies_true, and_true]
  refine ⟨.declaration (.append (.append rfl)), .indented (.append (.append rfl)),
    .indented (.append (.append rfl)), .pointer _ _ [","] ?_, .pointer _ _ [","] ?_,
    .pointer _ _ [","] ?_, .pointer _ _ [] ?_, .close⟩
  all_goals
    intro name hname
    simp [Option.mem_toList.mpr hname]

lemma tidy_sheetTable (symbol title : String) (count : Nat) (tileset bank2 : Option String) :
    (sheetTable symbol title count tileset bank2).Tidy := by
  simp only [Table.Tidy, sheetTable, List.forall_mem_cons, List.not_mem_nil, false_imp_iff,
    implies_true, and_true]
  refine ⟨.declaration (.append (.append rfl)), .indented (.append (.append rfl)),
    .pointer _ _ [","] ?_, .pointer _ _ [] ?_, .close⟩
  all_goals
    intro name hname
    simp [Option.mem_toList.mpr hname]

/-! ## Scenes -/

lemma mem_dropRepeats {item : String} {items : List String} :
    item ∈ dropRepeats items ↔ item ∈ items := by
  fun_induction dropRepeats items with
  | case1 => rfl
  | case2 => rfl
  | case3 a rest ih => rw [ih, List.mem_cons, List.mem_cons, List.mem_cons]; simp
  | case4 a b rest hne ih => rw [List.mem_cons, ih, List.mem_cons (l := b :: rest)]

variable {table : Table} {tables : Tables} {entry : SceneEntry} {scripts : SceneScripts}

lemma eq_of_mem_optional {isLeftOut : Bool} {whole : Table}
    (h : table ∈ if isLeftOut then none else some whole) : table = whole := by
  split_ifs at h
  · cases h
  · cases h
    rfl

lemma bodyLine_actorLines {targets : List String} {actor : Project.Actor}
    {script update : Option String}
    (hsheet : ∀ name ∈ sheetSymbol? tables actor.spriteSheetId, name ∈ targets)
    (hscript : ∀ name ∈ script, name ∈ targets) (hupdate : ∀ name ∈ update, name ∈ targets) :
    ∀ pieces ∈ actorLines tables actor script update, BodyLine targets pieces := by
  simp only [actorLines, List.forall_mem_cons, List.not_mem_nil, false_imp_iff, implies_true,
    and_true]
  exact ⟨.indented rfl, .indented (.append rfl), .indented (.append (.append rfl)),
    .indented (.append (.append rfl)), .indented (.append (.append rfl)),
    .pointer _ _ [","] hsheet, .indented (.append (.append rfl)), .pointer _ _ [","] hscript,
    .pointer _ _ [] hupdate, .indented rfl⟩

lemma tidy_actorsTable (h : table ∈ actorsTable? tables entry scripts) : table.Tidy := by
  obtain rfl := eq_of_mem_optional h
  simp only [Table.Tidy, List.cons_append, List.forall_mem_cons, List.forall_mem_append,
    List.forall_mem_flatMap, List.not_mem_nil, false_imp_iff, implies_true, and_true,
    List.append_nil]
  refine ⟨.declaration (.append (.append rfl)), fun actor hactor => ?_, .close⟩
  refine bodyLine_actorLines ?_ ?_ ?_
  all_goals
    intro name hname
    refine mem_dropRepeats.mpr (List.mem_flatMap.mpr ⟨actor, hactor, ?_⟩)
  · exact List.mem_append_left _ (List.mem_append_left _ (Option.mem_toList.mpr hname))
  · exact List.mem_append_left _ (List.mem_append_right _ (Option.mem_toList.mpr hname))
  · exact List.mem_append_right _ (Option.mem_toList.mpr hname)

lemma mem_of_mem_scriptAt {scripts : List (Option String)} {i : Nat} {symbol : String}
    (h : symbol ∈ scriptAt scripts i) : symbol ∈ scripts.filterMap id := by
  obtain ⟨script, hscript, rfl⟩ := Option.bind_eq_some_iff.mp h
  exact List.mem_filterMap.mpr ⟨_, List.mem_of_getElem? hscript, rfl⟩

lemma tidy_triggersTable (h : table ∈ triggersTable? entry scripts) : table.Tidy := by
  obtain rfl := eq_of_mem_optional h
  simp only [Table.Tidy, triggerLines, List.cons_append, List.forall_mem_cons,
    List.forall_mem_append, List.forall_mem_flatMap, List.not_mem_nil, false_imp_iff, implies_true,
    and_true, List.append_nil]
  refine ⟨.declaration (.append (.append rfl)), fun trigger _ => ⟨.indented rfl,
    .indented (.append (.append (.append (.append (.append (.append (.append (.append rfl)))))))),
    .pointer _ _ [] fun name hname => mem_of_mem_scriptAt hname, .indented rfl⟩, .close⟩

lemma tidy_spritesTable (h : table ∈ spritesTable? tables entry) : table.Tidy := by
  obtain rfl := eq_of_mem_optional h
  simp only [Table.Tidy, List.cons_append, List.forall_mem_cons, List.forall_mem_append,
    List.forall_mem_map, List.not_mem_nil, false_imp_iff, implies_true, and_true, List.append_nil]
  refine ⟨.declaration (.append (.append rfl)), fun sheet hsheet => .pointer _ _ [","] ?_, .close⟩
  rintro _ ⟨⟩
  exact hsheet

lemma tidy_projectilesTable (h : table ∈ projectilesTable? tables entry) : table.Tidy := by
  obtain rfl := eq_of_mem_optional h
  simp only [Table.Tidy, projectileLines, List.cons_append, List.forall_mem_cons,
    List.forall_mem_append, List.forall_mem_flatMap, List.not_mem_nil, false_imp_iff, implies_true,
    and_true, List.append_nil]
  refine ⟨.declaration (.append (.append rfl)), fun projectile hprojectile => ⟨.indented rfl,
    .pointer _ _ [","] fun name hname => ?_, .indented (.append (.append rfl)),
    .indented (.append (.append rfl)), .indented (.append (.append rfl)),
    .indented (.append rfl), .indented rfl⟩, .close⟩
  exact List.mem_filterMap.mpr ⟨projectile, hprojectile, hname⟩

lemma tidy_sceneTable (entry : SceneEntry) (type : Nat) (parts : SceneParts) :
    (sceneTable entry type parts).Tidy := by
  have hnumber : ∀ name n, BodyLine (sceneTable entry type parts).headers (numberField name n) :=
    fun name n => .indented (.append (.append (.append (.append rfl))))
  have hpointer : ∀ name (symbol : Option String), (∀ target ∈ symbol, target ∈ parts.headers) →
      BodyLine (sceneTable entry type parts).headers (pointerField name symbol) :=
    fun name symbol hsymbol => .pointer _ _ [","] hsymbol
  simp only [Table.Tidy, sceneTable, List.forall_mem_cons, List.not_mem_nil, false_imp_iff,
    implies_true, and_true, List.append_nil] at hnumber hpointer ⊢
  simp only [hnumber, true_and]
  refine ⟨.declaration (.append (.append rfl)), hpointer _ _ ?_, hpointer _ _ ?_, hpointer _ _ ?_,
    hpointer _ _ ?_, hpointer _ _ ?_, hpointer _ _ ?_, hpointer _ _ ?_, hpointer _ _ ?_,
    hpointer _ _ ?_, hpointer _ _ ?_, .pointer _ _ [] ?_, .close⟩
  all_goals
    intro name hname
    rw [SceneParts.headers, mem_dropRepeats]
    simp_all

/-! ## All tables -/

/-- All tables, in order. -/
def allTables (input : Input) : List Table :=
  assetTables input.tables ++ allSceneTables input ++ musicTables input.tables.music

lemma tidy_sceneTables {types : List String} :
    ∀ table ∈ sceneTables tables types entry scripts, table.Tidy := by
  simp only [sceneTables, List.forall_mem_append, List.forall_mem_singleton, Option.mem_toList]
  exact ⟨⟨⟨⟨⟨tidy_collisionsTable _, fun _ => tidy_actorsTable⟩, fun _ => tidy_triggersTable⟩,
    fun _ => tidy_spritesTable⟩, fun _ => tidy_projectilesTable⟩, tidy_sceneTable _ _ _⟩

lemma tidy_assetTables (tables : Tables) : ∀ table ∈ assetTables tables, table.Tidy := by
  simp only [assetTables, avatarTables, List.forall_mem_append, List.forall_mem_map,
    List.forall_mem_cons, List.not_mem_nil, false_imp_iff, implies_true, and_true]
  simp only [tidy_tilesetTable, tidy_bytesTable, tidy_backgroundTable, tidy_paletteTable,
    tidy_fontTable, implies_true, true_and, and_true]
  exact ⟨fun entry _ => tidy_sheetTable _ _ _ _ _, tidy_sheetTable _ _ _ _ _⟩

lemma tidy_allTables (input : Input) : ∀ table ∈ allTables input, table.Tidy := by
  simp only [allTables, allSceneTables, musicTables, List.forall_mem_append, List.forall_mem_map,
    List.forall_mem_flatMap]
  exact ⟨⟨tidy_assetTables input.tables, fun _ _ => tidy_sceneTables⟩,
    fun _ _ => tidy_bytesTable _ _ _⟩

/-! ## Headers -/

/-- The symbols of the palettes. -/
def paletteSymbols (tables : Tables) : List String :=
  (List.range tables.palettes.sets.length).map (Allocator.numbered "palette")

/-- What a table may refer to: scripts, tables of objects and palettes. -/
def Linked (input : Input) (scripts : List String) (symbol : String) : Prop :=
  symbol ∈ scripts ∨ symbol ∈ ownStems input ∨ symbol ∈ paletteSymbols input.tables

section

variable {input : Input} {symbol : String}

lemma mem_ownStems_of_background (h : symbol ∈ input.tables.backgrounds.stems) :
    symbol ∈ ownStems input :=
  List.mem_append_left _ h

lemma mem_ownStems_of_sprite (h : symbol ∈ input.tables.sprites.stems) :
    symbol ∈ ownStems input :=
  List.mem_append_right _ (List.mem_append_left _ h)

lemma mem_ownStems_of_sheetSymbol? {id : String} (h : symbol ∈ sheetSymbol? input.tables id) :
    symbol ∈ ownStems input := by
  obtain ⟨sheet, hsheet, rfl⟩ := Option.map_eq_some_iff.mp h
  refine mem_ownStems_of_sprite (List.mem_append_right _ ?_)
  exact List.mem_map.mpr ⟨sheet, List.mem_of_find?_eq_some hsheet, rfl⟩

lemma mem_ownStems_of_scene {table : Table} (h : table ∈ allSceneTables input) :
    table.symbol ∈ ownStems input := by
  simp only [ownStems, List.mem_append]
  exact .inr (.inr (.inr (.inr (.inr (.inr (List.mem_map.mpr ⟨table, h, rfl⟩))))))

lemma mem_paletteSymbols_of_paletteAt {tables : Tables} {places : List (String × Nat)}
    {sceneId : String} (h : symbol ∈ paletteAt tables places sceneId) :
    symbol ∈ paletteSymbols tables := by
  obtain ⟨place, -, hplace⟩ := Option.bind_eq_some_iff.mp h
  split_ifs at hplace with hlt
  cases hplace
  exact List.mem_map.mpr ⟨place, List.mem_range.mpr hlt, rfl⟩

end

section

variable {input : Input} {scripts : List String}

lemma linked_assetTables (hcomplete : Complete input.tables) :
    ∀ table ∈ assetTables input.tables, ∀ header ∈ table.headers,
      Linked input scripts header := by
  have hbackground : ∀ entry ∈ input.tables.backgrounds.entries,
      ∀ header ∈ (backgroundTable entry).headers, Linked input scripts header := by
    intro entry hentry header hheader
    have hmem := hcomplete.backgrounds entry hentry hheader
    exact .inr (.inl (mem_ownStems_of_background (List.mem_append_left _ hmem)))
  have hsprite : ∀ entry ∈ input.tables.sprites.entries,
      ∀ header ∈ (spriteTable entry).headers, Linked input scripts header := by
    intro entry hentry header hheader
    have hmem := hcomplete.sprites entry hentry hheader
    exact .inr (.inl (mem_ownStems_of_sprite (List.mem_append_left _ hmem)))
  simp only [assetTables, avatarTables, tilesetTable, bytesTable, paletteTable, fontTable,
    emptySheetTable, sheetTable, Option.toList_none, List.append_nil, List.forall_mem_append,
    List.forall_mem_map, List.forall_mem_cons, List.not_mem_nil, false_imp_iff, implies_true,
    and_true, true_and]
  exact ⟨hbackground, hsprite⟩

section

variable {entry : SceneEntry} {own : SceneScripts} {table : Table}

lemma linked_sheetSymbol? {id header : String} (h : header ∈ sheetSymbol? input.tables id) :
    Linked input scripts header :=
  .inr (.inl (mem_ownStems_of_sheetSymbol? h))

lemma linked_actorsTable (hactors : ∀ header ∈ own.actors.filterMap id, header ∈ scripts)
    (hupdates : ∀ header ∈ own.updates.filterMap id, header ∈ scripts)
    (h : table ∈ actorsTable? input.tables entry own) :
    ∀ header ∈ table.headers, Linked input scripts header := by
  obtain rfl := eq_of_mem_optional h
  intro header hheader
  obtain ⟨actor, -, hmem⟩ := List.mem_flatMap.mp (mem_dropRepeats.mp hheader)
  simp only [List.mem_append, Option.mem_toList] at hmem
  rcases hmem with (hmem | hmem) | hmem
  · exact linked_sheetSymbol? hmem
  · exact .inl (hactors header (mem_of_mem_scriptAt hmem))
  · exact .inl (hupdates header (mem_of_mem_scriptAt hmem))

lemma linked_triggersTable (htriggers : ∀ header ∈ own.triggers.filterMap id, header ∈ scripts)
    (h : table ∈ triggersTable? entry own) :
    ∀ header ∈ table.headers, Linked input scripts header := by
  obtain rfl := eq_of_mem_optional h
  exact fun header hheader => .inl (htriggers header hheader)

lemma linked_spritesTable (h : table ∈ spritesTable? input.tables entry) :
    ∀ header ∈ table.headers, Linked input scripts header := by
  obtain rfl := eq_of_mem_optional h
  intro header hheader
  obtain ⟨id, -, hid⟩ := List.mem_filterMap.mp hheader
  exact linked_sheetSymbol? hid

lemma linked_projectilesTable (h : table ∈ projectilesTable? input.tables entry) :
    ∀ header ∈ table.headers, Linked input scripts header := by
  obtain rfl := eq_of_mem_optional h
  intro header hheader
  obtain ⟨projectile, -, hprojectile⟩ := List.mem_filterMap.mp hheader
  exact linked_sheetSymbol? hprojectile

lemma linked_sceneTables (hentry : (entry, own) ∈ input.tables.scenes.zip input.scripts)
    (hscripts : own.symbols ⊆ scripts) :
    ∀ table ∈ sceneTables input.tables input.usedTypes entry own, ∀ header ∈ table.headers,
      Linked input scripts header := by
  have hscript : ∀ header ∈ own.symbols, header ∈ scripts := fun header hheader => hscripts hheader
  -- the parts of the scene are tables of the same scene
  have hpart : ∀ table ∈ sceneTables input.tables input.usedTypes entry own,
      Linked input scripts table.symbol := fun table htable =>
    .inr (.inl (mem_ownStems_of_scene (List.mem_flatMap.mpr ⟨(entry, own), hentry, htable⟩)))
  simp only [SceneScripts.symbols, List.forall_mem_append, Option.mem_toList] at hscript
  simp only [sceneTables, List.forall_mem_append, List.forall_mem_singleton, Option.mem_toList]
    at hpart ⊢
  obtain ⟨⟨⟨⟨hinit, hhit⟩, hactors⟩, hupdates⟩, htriggers⟩ := hscript
  obtain ⟨⟨⟨⟨⟨hcollisions, hactors'⟩, htriggers'⟩, hsprites'⟩, hprojectiles'⟩, -⟩ := hpart
  refine ⟨⟨⟨⟨⟨by simp [collisionsTable, bytesTable], fun _ => linked_actorsTable hactors hupdates⟩,
    fun _ => linked_triggersTable htriggers⟩, fun _ => linked_spritesTable⟩,
    fun _ => linked_projectilesTable⟩, ?_⟩
  -- what the scene itself points to, part by part
  have hoptional : ∀ {table? : Option Table},
      (∀ table, table? = some table → Linked input scripts table.symbol) →
      ∀ header, table?.map (·.symbol) = some header → Linked input scripts header := by
    intro table? htable header hheader
    obtain ⟨table, htable', rfl⟩ := Option.map_eq_some_iff.mp hheader
    exact htable table htable'
  simp only [sceneTable, SceneParts.headers, mem_dropRepeats, List.forall_mem_append,
    List.forall_mem_singleton, Option.mem_toList]
  refine ⟨⟨⟨⟨⟨⟨⟨⟨⟨⟨?_, hcollisions⟩, ?_⟩, ?_⟩, ?_⟩, hoptional hactors'⟩, hoptional htriggers'⟩,
    hoptional hsprites'⟩, hoptional hprojectiles'⟩,
    fun header hheader => .inl (hinit header hheader)⟩,
    fun header hheader => .inl (hhit header hheader)⟩
  · intro header hheader
    obtain ⟨background, hbackground, rfl⟩ := Option.map_eq_some_iff.mp hheader
    have hmem : background.symbol ∈ input.tables.backgrounds.entries.map (·.symbol) :=
      List.mem_map.mpr ⟨background, List.mem_of_getElem? hbackground, rfl⟩
    exact .inr (.inl (mem_ownStems_of_background (List.mem_append_right _ hmem)))
  · exact fun header hheader => .inr (.inr (mem_paletteSymbols_of_paletteAt hheader))
  · exact fun header hheader => .inr (.inr (mem_paletteSymbols_of_paletteAt hheader))
  · intro header hheader
    obtain ⟨id, -, hid⟩ := Option.bind_eq_some_iff.mp hheader
    exact linked_sheetSymbol? hid

end

lemma linked_headers (hcomplete : Complete input.tables)
    (hscripts : ∀ own ∈ input.scripts, own.symbols ⊆ scripts) :
    ∀ table ∈ allTables input, ∀ header ∈ table.headers, Linked input scripts header := by
  simp only [allTables, allSceneTables, musicTables, bytesTable, List.forall_mem_append,
    List.forall_mem_map, List.forall_mem_flatMap]
  refine ⟨⟨linked_assetTables hcomplete, fun pair hpair => ?_⟩, by simp⟩
  exact linked_sceneTables hpair (hscripts pair.2 (List.of_mem_zip hpair).2)

end

end Cartridge.Source
