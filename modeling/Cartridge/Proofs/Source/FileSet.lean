import Mathlib.Data.List.Nodup
import Cartridge.Source.File

/-!
# File sets without a clash

Adding files stops at the first one whose products do not fit or whose name is taken
(`addFiles_cases`).  So files that fit and have names of their own always go into an empty set
(`addFiles_of_nodup`), a name that is refused was there twice (`two_le_count_of_addFiles`), and an
overflow is met exactly if nothing goes wrong before it (`addFiles_eq_overflow_iff`).

The name of a file is a stem with an ending of one character.  `outputNames` lists the names for
stems with their endings, and different stems have different names (`nodup_outputNames`).
-/

namespace Cartridge.Source

open Cartridge.Compile (Error)

namespace FileSet

variable {set : FileSet}

lemma contains_iff {name : String} :
    set.contains name = true ↔ name ∈ set.files.map Prod.fst := by
  simp [contains, get?]

lemma nodup_empty : (({} : FileSet).files.map Prod.fst).Nodup :=
  List.nodup_nil

/-- The files can be added: their products fit, and no name is taken or given twice. -/
structure Accepts (set : FileSet) (files : List File) : Prop where
  fits : ∀ file ∈ files, file.fits = true
  nodup : (set.files.map Prod.fst ++ files.map File.name).Nodup

/-- The set with the files behind its own. -/
def extended (set : FileSet) (files : List File) : FileSet :=
  ⟨set.files ++ files.map fun file => (file.name, file.text)⟩

lemma map_fst_extended (set : FileSet) (files : List File) :
    (set.extended files).files.map Prod.fst = set.files.map Prod.fst ++ files.map File.name := by
  rw [extended, List.map_append, List.map_map]
  rfl

lemma extended_cons (set : FileSet) (file : File) (rest : List File) :
    set.extended (file :: rest) = (set.extended [file]).extended rest := by
  simp only [extended, List.map_cons, List.map_nil, List.append_assoc, List.singleton_append]

lemma accepts_cons {file : File} {rest : List File} :
    set.Accepts (file :: rest) ↔ set.Accepts [file] ∧ (set.extended [file]).Accepts rest := by
  constructor
  · rintro ⟨hfits, hnodup⟩
    have hnames : set.files.map Prod.fst ++ (file :: rest).map File.name =
        set.files.map Prod.fst ++ [file].map File.name ++ rest.map File.name := by simp
    rw [hnames] at hnodup
    refine ⟨⟨fun other hother => ?_, (List.nodup_append.mp hnodup).1⟩, fun other hother => ?_, ?_⟩
    · exact hfits other (List.mem_singleton.mp hother ▸ List.mem_cons_self)
    · exact hfits other (List.mem_cons_of_mem file hother)
    · rwa [map_fst_extended]
  · rintro ⟨⟨hfile, -⟩, hrest, hnodup⟩
    rw [map_fst_extended] at hnodup
    refine ⟨List.forall_mem_cons.mpr ⟨hfile file List.mem_cons_self, hrest⟩, ?_⟩
    simpa using hnodup

/-- One file is added, or one of two things is wrong with it. -/
lemma addFile_cases (hset : (set.files.map Prod.fst).Nodup) (file : File) :
    set.Accepts [file] ∧ set.addFile file = .ok (set.extended [file]) ∨
      file.fits = false ∧ set.addFile file = .error .overflow ∨
      file.fits = true ∧ file.name ∈ set.files.map Prod.fst ∧
        set.addFile file = .error (.duplicateFile file.name) := by
  cases hfits : file.fits with
  | false => exact .inr (.inl ⟨rfl, by rw [addFile, hfits]; rfl⟩)
  | true =>
    rw [addFile, hfits, if_pos rfl, insert]
    by_cases hmem : file.name ∈ set.files.map Prod.fst
    · exact .inr (.inr ⟨rfl, hmem, if_pos (contains_iff.mpr hmem)⟩)
    · refine .inl ⟨⟨by simpa using hfits, ?_⟩, if_neg fun hcontains => ?_⟩
      · rw [List.nodup_append]
        refine ⟨hset, List.nodup_singleton _, fun name hname other hother heq => ?_⟩
        exact hmem (List.mem_singleton.mp hother ▸ heq ▸ hname)
      · exact hmem (contains_iff.mp hcontains)

section

variable {files : List File}

lemma addFiles_append (set : FileSet) (front back : List File) :
    set.addFiles (front ++ back) = set.addFiles front >>= fun later => later.addFiles back :=
  List.foldlM_append

/-- All files are added, or adding stops at the first one that does not fit or whose name is
taken. -/
lemma addFiles_cases (hset : (set.files.map Prod.fst).Nodup) (files : List File) :
    set.Accepts files ∧ set.addFiles files = .ok (set.extended files) ∨
      ∃ front file back, files = front ++ file :: back ∧ set.Accepts front ∧
        (file.fits = false ∧ set.addFiles files = .error .overflow ∨
          file.fits = true ∧ file.name ∈ set.files.map Prod.fst ++ front.map File.name ∧
            set.addFiles files = .error (.duplicateFile file.name)) := by
  induction files generalizing set with
  | nil =>
    refine .inl ⟨⟨fun _ hfile => absurd hfile List.not_mem_nil, by simpa using hset⟩, ?_⟩
    rw [extended, List.map_nil, List.append_nil]
    rfl
  | cons file rest ih =>
    have hcons : set.addFiles (file :: rest) =
        set.addFile file >>= fun later => later.addFiles rest := List.foldlM_cons
    have hnil : set.Accepts [] := ⟨by simp, by simpa using hset⟩
    rcases addFile_cases hset file with ⟨haccepts, hok⟩ | ⟨hfits, herror⟩ | ⟨hfits, hmem, herror⟩
    · have hnodup : ((set.extended [file]).files.map Prod.fst).Nodup := by
        rw [map_fst_extended]
        exact haccepts.nodup
      have hrun : set.addFiles (file :: rest) = (set.extended [file]).addFiles rest := by
        rw [hcons, hok]
        rfl
      rw [hrun, extended_cons set file rest]
      rcases ih hnodup with ⟨hrest, hlater⟩ | ⟨front, other, back, rfl, hfront, hstop⟩
      · exact .inl ⟨accepts_cons.mpr ⟨haccepts, hrest⟩, hlater⟩
      · refine .inr ⟨file :: front, other, back, rfl, accepts_cons.mpr ⟨haccepts, hfront⟩, ?_⟩
        rw [map_fst_extended] at hstop
        simpa using hstop
    · exact .inr ⟨[], file, rest, rfl, hnil, .inl ⟨hfits, by rw [hcons, herror]; rfl⟩⟩
    · refine .inr ⟨[], file, rest, rfl, hnil, .inr ⟨hfits, ?_, by rw [hcons, herror]; rfl⟩⟩
      simpa using hmem

/-- What is added fits together with what was there, when nothing goes wrong. -/
lemma addFiles_eq_ok {later : FileSet} (hset : (set.files.map Prod.fst).Nodup)
    (h : set.addFiles files = .ok later) : set.Accepts files ∧ later = set.extended files := by
  rcases addFiles_cases hset files with ⟨haccepts, hok⟩ | ⟨_, _, _, _, _, hstop⟩
  · cases hok.symm.trans h
    exact ⟨haccepts, rfl⟩
  · rcases hstop with ⟨-, herror⟩ | ⟨-, -, herror⟩ <;> cases herror.symm.trans h

/-- Files that a set accepts are all added. -/
lemma addFiles_of_accepts (hset : (set.files.map Prod.fst).Nodup) (h : set.Accepts files) :
    set.addFiles files = .ok (set.extended files) := by
  rcases addFiles_cases hset files with ⟨-, hok⟩ | ⟨front, file, back, rfl, hfront, hstop⟩
  · exact hok
  · rcases hstop with ⟨hfits, -⟩ | ⟨-, hmem, -⟩
    · exact absurd (h.fits file (by simp)) (by simp [hfits])
    · have hnodup := h.nodup
      rw [List.map_append, ← List.append_assoc, List.nodup_append] at hnodup
      exact absurd rfl (hnodup.2.2 _ hmem _ (List.mem_map_of_mem List.mem_cons_self))

/-- The name in the error is there twice. -/
lemma two_le_count_of_addFiles {name : String} (hset : (set.files.map Prod.fst).Nodup)
    (h : set.addFiles files = .error (.duplicateFile name)) :
    2 ≤ (set.files.map Prod.fst ++ files.map File.name).count name := by
  rcases addFiles_cases hset files with ⟨-, hok⟩ | ⟨front, file, back, rfl, -, hstop⟩
  · cases hok.symm.trans h
  · rcases hstop with ⟨-, herror⟩ | ⟨-, hmem, herror⟩
    · cases herror.symm.trans h
    · cases herror.symm.trans h
      have hfront := List.count_pos_iff.mpr hmem
      rw [List.map_append, ← List.append_assoc, List.count_append, List.map_cons,
        List.count_cons_self]
      omega

/-- An overflow stops the files exactly where all files before it could be added. -/
lemma addFiles_eq_overflow_iff (hset : (set.files.map Prod.fst).Nodup) :
    set.addFiles files = .error .overflow ↔
      ∃ front file back, files = front ++ file :: back ∧ set.Accepts front ∧
        file.fits = false := by
  constructor
  · intro h
    rcases addFiles_cases hset files with ⟨-, hok⟩ | ⟨front, file, back, hfiles, hfront, hstop⟩
    · cases hok.symm.trans h
    · rcases hstop with ⟨hfits, -⟩ | ⟨-, -, herror⟩
      · exact ⟨front, file, back, hfiles, hfront, hfits⟩
      · cases herror.symm.trans h
  · rintro ⟨front, file, back, rfl, hfront, hfits⟩
    have hstop : (set.extended front).addFile file = .error .overflow := by
      rw [addFile, hfits]
      rfl
    rw [addFiles_append, addFiles_of_accepts hset hfront]
    change List.foldlM addFile _ _ = _
    rw [List.foldlM_cons, hstop]
    rfl

/-- Files with names of their own that fit always go into an empty set. -/
lemma addFiles_of_nodup (hfits : ∀ file ∈ files, file.fits = true)
    (hnodup : (files.map File.name).Nodup) :
    addFiles {} files = .ok ⟨files.map fun file => (file.name, file.text)⟩ :=
  addFiles_of_accepts nodup_empty ⟨hfits, hnodup⟩

end

end FileSet

/-- The text of a file whose name is given once. -/
lemma get?_of_mem_files {set : FileSet} (hnodup : (set.files.map Prod.fst).Nodup)
    {name text : String} (h : (name, text) ∈ set.files) : set.get? name = some text := by
  obtain ⟨front, back, hfiles⟩ := List.append_of_mem h
  rw [FileSet.get?, List.lookup_eq_some_iff]
  refine ⟨front, back, hfiles, fun entry hentry => ?_⟩
  rw [hfiles, List.map_append, List.nodup_append] at hnodup
  rw [bne_iff_ne]
  exact fun heq => hnodup.2.2 entry.1 (List.mem_map_of_mem hentry) name
    (List.mem_map_of_mem List.mem_cons_self) heq.symm

/-! ## Stems and endings -/

lemma append_ending_inj {a b : String} {x y : Char}
    (h : a ++ String.ofList ['.', x] = b ++ String.ofList ['.', y]) : a = b ∧ x = y := by
  have hchars := congrArg String.toList h
  simp only [String.toList_append, String.toList_ofList] at hchars
  obtain ⟨hname, hending⟩ := List.append_inj' hchars rfl
  exact ⟨String.toList_injective hname, by simpa using hending⟩

/-- The names of the files for a stem, one for each ending. -/
def fileNames (output : String × List Char) : List String :=
  output.2.map fun ending => output.1 ++ String.ofList ['.', ending]

/-- The names of the files for stems with their endings. -/
def outputNames (outputs : List (String × List Char)) : List String :=
  outputs.flatMap fileNames

/-- A name tells its stem and its ending. -/
lemma mem_outputNames {outputs : List (String × List Char)} {stem : String} {ending : Char} :
    stem ++ String.ofList ['.', ending] ∈ outputNames outputs ↔
      ∃ endings, (stem, endings) ∈ outputs ∧ ending ∈ endings := by
  constructor
  · intro h
    obtain ⟨⟨other, endings⟩, houtput, hname⟩ := List.mem_flatMap.mp h
    obtain ⟨last, hlast, heq⟩ := List.mem_map.mp hname
    obtain ⟨rfl, rfl⟩ := append_ending_inj heq
    exact ⟨endings, houtput, hlast⟩
  · rintro ⟨endings, houtput, hending⟩
    exact List.mem_flatMap.mpr ⟨_, houtput, List.mem_map.mpr ⟨ending, hending, rfl⟩⟩

/-- Stems of their own with endings of their own make names of their own. -/
lemma nodup_outputNames {outputs : List (String × List Char)}
    (hstems : (outputs.map Prod.fst).Nodup) (hendings : ∀ output ∈ outputs, output.2.Nodup) :
    (outputNames outputs).Nodup := by
  rw [outputNames, List.nodup_flatMap]
  constructor
  · intro output houtput
    refine (hendings output houtput).map ?_
    intro x y heq
    exact (append_ending_inj heq).2
  · refine (List.pairwise_map.mp hstems).imp ?_
    intro first second hne name hfirst hsecond
    obtain ⟨x, -, rfl⟩ := List.mem_map.mp hfirst
    obtain ⟨y, -, heq⟩ := List.mem_map.mp hsecond
    exact hne (append_ending_inj heq).1.symm

/-! ## Scripts -/

/-- The files of a script. -/
def scriptOutput (symbol : String) : String × List Char :=
  (symbol, ['s', 'h'])

lemma map_fst_scriptOutput (symbols : List String) :
    (symbols.map scriptOutput).map Prod.fst = symbols := by
  rw [List.map_map]
  exact List.map_id symbols

/-- No number of a script is a product. -/
lemma fits_scriptFiles {scripts : List Script.Compiled} {file : File}
    (h : file ∈ scripts.flatMap scriptFiles) : file.fits = true := by
  obtain ⟨script, -, hfile⟩ := List.mem_flatMap.mp h
  rcases List.mem_pair.mp hfile with rfl | rfl <;> rfl

lemma names_scriptFiles (scripts : List Script.Compiled) :
    (scripts.flatMap scriptFiles).map File.name =
      outputNames ((scripts.map Script.Compiled.symbol).map scriptOutput) := by
  rw [outputNames, List.map_flatMap, List.flatMap_map, List.flatMap_map]
  rfl

/-- Scripts with symbols of their own have files with names of their own. -/
lemma nodup_scriptFiles {scripts : List Script.Compiled}
    (h : (scripts.map Script.Compiled.symbol).Nodup) :
    ((scripts.flatMap scriptFiles).map File.name).Nodup := by
  rw [names_scriptFiles]
  refine nodup_outputNames ?_ ?_
  · rwa [map_fst_scriptOutput]
  · intro output houtput
    obtain ⟨symbol, -, rfl⟩ := List.mem_map.mp houtput
    show ['s', 'h'].Nodup
    decide

end Cartridge.Source
