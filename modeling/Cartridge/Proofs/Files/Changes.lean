import Mathlib.Data.List.Induction
import Cartridge.Proofs.Files.Places

/-!
# What file operations change

Each operation that succeeds is described once by the places that it changes (`ChangesOnly`) and by
what it leaves there: folders are added where nothing was, a file is put in one place (`PutsFile`),
a file goes from one place to another (`MovesFile`).  Everything else is as it was.

In a tree of files nothing lies below a file; every entry lies in a folder (`Rooted`).  All
operations keep this.
-/

namespace Cartridge.Files.FileTree

variable {tree middle later : FileTree} {path source target : FilePath} {place other : Location}
  {entry : Entry} {content : Content}

/-! ## Entries -/

@[simp] lemma at?_nil (tree : FileTree) : tree.at? [] = some .folder := rfl

lemma at?_of_ne_nil (tree : FileTree) (h : place ≠ []) :
    tree.at? place = (tree.entries.find? fun entry => entry.1 == place).map (·.2) :=
  if_neg h

lemma mem_of_at?_eq_some (hplace : place ≠ []) (h : tree.at? place = some entry) :
    (place, entry) ∈ tree.entries := by
  rw [at?_of_ne_nil _ hplace, Option.map_eq_some_iff] at h
  obtain ⟨found, hfound, rfl⟩ := h
  have heq : found.1 = place := by simpa using List.find?_some hfound
  rw [← heq]
  exact List.mem_of_find?_eq_some hfound

lemma at?_put_self (tree : FileTree) (h : place ≠ []) (entry : Entry) :
    (tree.put place entry).at? place = some entry := by
  have hother : (tree.entries.filter fun other => other.1 != place).find?
      (fun entry => entry.1 == place) = none := by
    rw [List.find?_eq_none]
    intro other hmem
    simpa using (List.mem_filter.mp hmem).2
  rw [at?_of_ne_nil _ h, put, List.find?_append, hother]
  simp

lemma at?_put_of_ne (tree : FileTree) (h : other ≠ place) (entry : Entry) :
    (tree.put place entry).at? other = tree.at? other := by
  by_cases hnil : other = []
  · rw [hnil, at?_nil, at?_nil]
  · rw [at?_of_ne_nil _ hnil, at?_of_ne_nil _ hnil, put, List.find?_append, List.find?_filter]
    have hlast : [(place, entry)].find? (fun entry => entry.1 == other) = none := by
      simpa using fun heq => h heq.symm
    have hsame : (fun entry : Location × Entry =>
        decide ((entry.1 != place) = true ∧ (entry.1 == other) = true)) =
        fun entry => entry.1 == other := by
      funext entry
      by_cases heq : entry.1 = other
      · simp [heq, h]
      · simp [heq]
    rw [hlast, hsame, Option.or_none]

/-! ## Trees without loose entries -/

/-- Every entry lies in a folder. -/
def Rooted (tree : FileTree) : Prop :=
  ∀ place name entry, tree.at? (place ++ [name]) = some entry → tree.at? place = some .folder

namespace Rooted

lemma of_entries (h : ∀ found ∈ tree.entries, tree.at? found.1.dropLast = some .folder) :
    tree.Rooted := by
  intro place name entry hentry
  have hmem := h _ (mem_of_at?_eq_some (by simp) hentry)
  rwa [List.dropLast_concat] at hmem

lemma folder_of_below (h : tree.Rooted) {rest : Location} (hrest : rest ≠ [])
    (hentry : tree.at? (place ++ rest) = some entry) : tree.at? place = some .folder := by
  induction rest using List.reverseRecOn generalizing entry with
  | nil => exact absurd rfl hrest
  | append_singleton front name ih =>
    rw [← List.append_assoc] at hentry
    have hfolder := h _ _ _ hentry
    by_cases hfront : front = []
    · rwa [hfront, List.append_nil] at hfolder
    · exact ih hfront hfolder

/-- Nothing lies below a file. -/
lemma at?_below_file (h : tree.Rooted) {executable : Bool}
    (hfile : tree.at? place = some (.file content executable)) {rest : Location}
    (hrest : rest ≠ []) : tree.at? (place ++ rest) = none := by
  cases hentry : tree.at? (place ++ rest) with
  | none => rfl
  | some entry =>
    have hfolder := h.folder_of_below hrest hentry
    rw [hfile] at hfolder
    cases hfolder

/-- What is located is a folder or lies in one. -/
lemma folder_or_parent (h : tree.Rooted) (hlocate : tree.locate path = .ok place) :
    tree.at? place = some .folder ∨
      ∃ parent name, place = parent ++ [name] ∧ tree.at? parent = some .folder := by
  have hresolve := (locate_eq_ok_iff.mp hlocate).2
  have hne : path.pieces ≠ [] := by
    rw [FilePath.pieces, Text.pieces_eq_splitOnP]
    exact List.splitOnP_ne_nil _ _
  rw [resolve, ← List.dropLast_append_getLast hne, List.foldlM_append, bind_eq_ok] at hresolve
  obtain ⟨before, -, hlast⟩ := hresolve
  rw [List.foldlM_cons, bind_eq_ok] at hlast
  obtain ⟨next, hstep, hnext⟩ := hlast
  cases hnext
  obtain ⟨hfolder, rfl⟩ := step_eq_ok hstep
  unfold follow
  split
  · exact .inr ⟨before, _, rfl, hfolder⟩
  · left
    by_cases hbefore : before = []
    · rw [hbefore]
      rfl
    · rw [← List.dropLast_append_getLast hbefore] at hfolder
      exact h _ _ _ hfolder
  · exact .inl hfolder

lemma put (h : tree.Rooted) (hlocate : tree.locate path = .ok place)
    (hfree : tree.at? place ≠ some .folder) (entry : Entry) : (tree.put place entry).Rooted := by
  obtain hfolder | ⟨parent, last, rfl, hparent⟩ := h.folder_or_parent hlocate
  · exact absurd hfolder hfree
  intro other name found hfound
  by_cases hplace : other ++ [name] = parent ++ [last]
  · obtain ⟨rfl, -⟩ := List.append_inj' hplace rfl
    rw [at?_put_of_ne _ (by simp)]
    exact hparent
  · rw [at?_put_of_ne _ hplace] at hfound
    have hother := h _ _ _ hfound
    have hne : other ≠ parent ++ [last] := by
      rintro rfl
      exact hfree hother
    rw [at?_put_of_ne _ hne]
    exact hother

end Rooted

/-! ## Changes -/

/-- Folders may be added anywhere where nothing was; all else stays but for what stands at the given
places, and no folder goes away. -/
structure ChangesOnly (places : List Location) (tree later : FileTree) : Prop where
  stay : FoldersStay tree later
  kept : ∀ place, place ∉ places → later.at? place = tree.at? place ∨
    tree.at? place = none ∧ later.at? place = some .folder
  rooted : tree.Rooted → later.Rooted

namespace ChangesOnly

variable {places more : List Location}

lemma refl (places : List Location) (tree : FileTree) : ChangesOnly places tree tree where
  stay := ⟨rfl, fun _ h => h⟩
  kept _ _ := .inl rfl
  rooted h := h

lemma trans (first : ChangesOnly places tree middle) (second : ChangesOnly places middle later) :
    ChangesOnly places tree later where
  stay := ⟨second.stay.current.trans first.stay.current,
    fun place h => second.stay.folder place (first.stay.folder place h)⟩
  kept place hplace := by
    rcases second.kept place hplace with heq | ⟨hnone, hfolder⟩
    · rw [heq]
      exact first.kept place hplace
    · rcases first.kept place hplace with heq | ⟨-, hfolder'⟩
      · exact .inr ⟨heq ▸ hnone, hfolder⟩
      · rw [hnone] at hfolder'
        cases hfolder'
  rooted h := second.rooted (first.rooted h)

lemma mono (h : ChangesOnly places tree later) (hsub : places ⊆ more) :
    ChangesOnly more tree later :=
  { h with kept := fun place hplace => h.kept place fun hmem => hplace (hsub hmem) }

/-- Where there was something, it is still there. -/
lemma at?_eq (h : ChangesOnly places tree later) (hplace : place ∉ places)
    (hentry : tree.at? place = some entry) : later.at? place = some entry := by
  rcases h.kept place hplace with heq | ⟨hnone, -⟩
  · rw [heq, hentry]
  · rw [hentry] at hnone
    cases hnone

/-- Files are where they were, and nowhere else. -/
lemma at?_file_iff (h : ChangesOnly places tree later) (hplace : place ∉ places)
    {executable : Bool} : later.at? place = some (.file content executable) ↔
      tree.at? place = some (.file content executable) := by
  refine ⟨fun hfile => ?_, h.at?_eq hplace⟩
  rcases h.kept place hplace with heq | ⟨-, hfolder⟩
  · rw [← heq, hfile]
  · rw [hfile] at hfolder
    cases hfolder

lemma find_eq (h : ChangesOnly places tree later) (hfind : tree.find path = .ok entry)
    (hplace : path.placeFrom tree.current ∉ places) : later.find path = .ok entry := by
  obtain ⟨located, hlocate, hentry⟩ := find_eq_ok_iff.mp hfind
  refine find_eq_ok_iff.mpr ⟨located, locate_of_foldersStay h.stay hlocate, h.at?_eq ?_ hentry⟩
  rwa [locate_eq_ok hlocate]

end ChangesOnly

/-! ## Folders that are added -/

/-- Folders are added where nothing was, and all else stays. -/
abbrev AddsFolders (tree later : FileTree) : Prop :=
  ChangesOnly [] tree later

lemma addsFolders_createFolder (h : tree.createFolder path = .ok later) :
    AddsFolders tree later := by
  rw [createFolder, bind_eq_ok] at h
  obtain ⟨place, hlocate, h⟩ := h
  cases hplace : tree.at? place with
  | some entry =>
    rw [hplace] at h
    cases h
  | none =>
    rw [hplace] at h
    cases h
    have hne : place ≠ [] := by
      rintro rfl
      cases hplace
    refine ⟨⟨rfl, fun other hfolder => ?_⟩, fun other _ => ?_, fun hrooted => ?_⟩
    · have hother : other ≠ place := by
        rintro rfl
        rw [hplace] at hfolder
        cases hfolder
      rw [at?_put_of_ne _ hother]
      exact hfolder
    · by_cases hother : other = place
      · rw [hother]
        exact .inr ⟨hplace, at?_put_self _ hne _⟩
      · exact .inl (at?_put_of_ne _ hother _)
    · exact hrooted.put hlocate (by rw [hplace]; simp) _

lemma addsFolders_ensureFolder (tree : FileTree) (path : FilePath) :
    AddsFolders tree (tree.ensureFolder path).tree := by
  rw [ensureFolder]
  cases hcreate : tree.createFolder path with
  | ok later => exact addsFolders_createFolder hcreate
  | error fault => exact .refl [] tree

lemma addsFolders_createFoldersFrom (levels : Nat) (tree : FileTree) (path : FilePath) :
    AddsFolders tree (createFoldersFrom levels tree path).tree := by
  induction levels generalizing path with
  | zero => exact .refl [] tree
  | succ levels ih =>
    rw [createFoldersFrom]
    split_ifs
    · exact .refl [] tree
    · split
      · rename_i parent _ _
        dsimp only
        split_ifs
        · exact ih parent
        · exact (ih parent).trans (addsFolders_ensureFolder _ path)
      · exact addsFolders_ensureFolder tree path

/-- Creating folders adds folders, also where it stops half way. -/
lemma addsFolders_createFolders (tree : FileTree) (path : FilePath) :
    AddsFolders tree (tree.createFolders path).tree :=
  addsFolders_createFoldersFrom _ tree path

/-! ## Files that are put in place -/

/-- A file is put in a place, and all else stays. -/
structure PutsFile (tree : FileTree) (place : Location) (content : Content) (later : FileTree) :
    Prop extends ChangesOnly [place] tree later where
  holds : ∃ executable, later.at? place = some (.file content executable)

/-- A file is written where its path leads. -/
lemma locateFile_eq_ok (h : tree.locateFile path = .ok place) :
    tree.locate path = .ok place ∧ tree.at? place ≠ some .folder := by
  rw [locateFile, bind_eq_ok] at h
  obtain ⟨located, hlocate, h⟩ := h
  split_ifs at h with hslash
  have htext : withoutFinalSlashes path = path := by
    have htext : (withoutFinalSlashes path).text = path.text := by simpa using hslash
    cases path
    cases hpath : withoutFinalSlashes _
    simpa [hpath] using htext
  rw [htext] at hlocate
  cases hentry : tree.at? located with
  | none =>
    rw [hentry] at h
    cases h
    exact ⟨hlocate, by rw [hentry]; simp⟩
  | some entry =>
    rw [hentry] at h
    cases entry with
    | folder => cases h
    | file _ _ =>
      cases h
      exact ⟨hlocate, by rw [hentry]; simp⟩

lemma putsFile_put (hlocate : tree.locate path = .ok place)
    (hfree : tree.at? place ≠ some .folder) (content : Content) (executable : Bool) :
    PutsFile tree place content (tree.put place (.file content executable)) where
  stay := by
    refine ⟨rfl, fun other hfolder => ?_⟩
    have hother : other ≠ place := by
      rintro rfl
      exact hfree hfolder
    rw [at?_put_of_ne _ hother]
    exact hfolder
  kept other hother := .inl (at?_put_of_ne _ (List.mem_singleton.not.mp hother) _)
  rooted h := h.put hlocate hfree _
  holds := by
    have hne : place ≠ [] := by
      rintro rfl
      exact hfree rfl
    exact ⟨executable, at?_put_self _ hne _⟩

variable {data : ByteArray}

lemma write_eq_ok (h : tree.write path data = .ok later) :
    ∃ executable, tree.locate path = .ok (path.placeFrom tree.current) ∧
      tree.at? (path.placeFrom tree.current) ≠ some .folder ∧
      later = tree.put (path.placeFrom tree.current) (.file (.bytes data) executable) := by
  rw [write, writeContent, bind_eq_ok] at h
  obtain ⟨place, hplace, h⟩ := h
  obtain ⟨hlocate, hfree⟩ := locateFile_eq_ok hplace
  rw [← locate_eq_ok hlocate]
  split at h <;> cases h <;> exact ⟨_, hlocate, hfree, rfl⟩

lemma putsFile_write (h : tree.write path data = .ok later) :
    PutsFile tree (path.placeFrom tree.current) (.bytes data) later := by
  obtain ⟨executable, hlocate, hfree, rfl⟩ := write_eq_ok h
  exact putsFile_put hlocate hfree _ _

/-- What was written can be read. -/
lemma read_write (h : tree.write path data = .ok later) :
    later.read path = .ok data := by
  obtain ⟨_, hlocate, -, -⟩ := write_eq_ok h
  have hput := putsFile_write h
  obtain ⟨executable, hholds⟩ := hput.holds
  have hfind := find_eq_ok_iff.mpr ⟨_, locate_of_foldersStay hput.stay hlocate, hholds⟩
  exact read_eq_ok_iff.mpr ⟨_, executable, hfind, rfl⟩

/-- What lies elsewhere is found as before, and nothing more is. -/
lemma find_write_iff (h : tree.write path data = .ok later)
    (hne : source.placeFrom tree.current ≠ path.placeFrom tree.current) :
    later.find source = .ok entry ↔ tree.find source = .ok entry := by
  refine ⟨fun hfind => ?_, fun hfind => (putsFile_write h).find_eq hfind (by simpa using hne)⟩
  obtain ⟨executable, -, hfree, rfl⟩ := write_eq_ok h
  have hback : FoldersStay (tree.put (path.placeFrom tree.current)
      (.file (.bytes data) executable)) tree := by
    refine ⟨rfl, fun place hfolder => ?_⟩
    by_cases hplace : place = path.placeFrom tree.current
    · have hroot : path.placeFrom tree.current ≠ [] := fun hnil => hfree (by rw [hnil]; rfl)
      rw [hplace, at?_put_self _ hroot] at hfolder
      cases hfolder
    · rwa [at?_put_of_ne _ hplace] at hfolder
  obtain ⟨place, hlocate, hentry⟩ := find_eq_ok_iff.mp hfind
  have hlocate' := locate_of_foldersStay hback hlocate
  refine find_eq_ok_iff.mpr ⟨place, hlocate', ?_⟩
  have hplace := locate_eq_ok hlocate'
  rwa [at?_put_of_ne _ (hplace ▸ hne)] at hentry

lemma putsFile_copy {size : Nat} (h : tree.copy source target = .ok (size, later))
    (hne : source.placeFrom tree.current ≠ target.placeFrom tree.current) :
    ∃ content executable, tree.find source = .ok (.file content executable) ∧
      size = content.data.size ∧ later.read target = .ok content.data ∧
      PutsFile tree (target.placeFrom tree.current) content later := by
  rw [copy, bind_eq_ok] at h
  obtain ⟨found, hfound, h⟩ := h
  cases found with
  | folder => cases h
  | file content executable =>
    rw [bind_eq_ok] at h
    obtain ⟨place, hplace, h⟩ := h
    obtain ⟨hlocate, hfree⟩ := locateFile_eq_ok hplace
    have hempty := putsFile_put hlocate hfree (.bytes .empty) executable
    rw [locate_eq_ok hlocate] at hempty h
    have hagain := hempty.find_eq hfound (List.mem_singleton.not.mpr hne)
    dsimp only at h
    rw [hagain] at h
    cases h
    obtain ⟨_, hholds⟩ := hempty.holds
    rw [locate_eq_ok hlocate] at hlocate
    have hlocate' := locate_of_foldersStay hempty.stay hlocate
    have hfull := putsFile_put hlocate' (by rw [hholds]; simp) content executable
    obtain ⟨executable', hholds'⟩ := hfull.holds
    refine ⟨content, executable, hfound, rfl, ?_, hempty.trans hfull.toChangesOnly, _, hholds'⟩
    exact read_eq_ok_iff.mpr ⟨content, executable', find_eq_ok_iff.mpr
      ⟨_, locate_of_foldersStay hfull.stay hlocate', hholds'⟩, rfl⟩

/-! ## Files that are moved -/

/-- A file goes from one place to another, and all else stays. -/
structure MovesFile (tree : FileTree) (here there : Location) (later : FileTree) :
    Prop extends ChangesOnly [here, there] tree later where
  moved : later.at? there = tree.at? here
  gone : here ≠ there → later.at? here = none

lemma at?_erase_of_not_below (tree : FileTree) (h : ¬place <+: other) :
    (tree.erase place).at? other = tree.at? other := by
  by_cases hnil : other = []
  · rw [hnil, at?_nil, at?_nil]
  · rw [at?_of_ne_nil _ hnil, at?_of_ne_nil _ hnil, erase, List.find?_filter]
    have hsame : (fun entry : Location × Entry =>
        decide ((!place.isPrefixOf entry.1) = true ∧ (entry.1 == other) = true)) =
        fun entry => entry.1 == other := by
      funext entry
      by_cases heq : entry.1 = other
      · simpa [heq, ← Bool.not_eq_true] using h
      · simp [heq]
    rw [hsame]

lemma at?_erase_of_below (tree : FileTree) (hother : other ≠ []) (h : place <+: other) :
    (tree.erase place).at? other = none := by
  rw [at?_of_ne_nil _ hother, erase, Option.map_eq_none_iff, List.find?_eq_none]
  intro entry hentry heq
  rw [beq_iff_eq] at heq
  have hnot := (List.mem_filter.mp hentry).2
  rw [heq, Bool.not_eq_true', ← Bool.not_eq_true, List.isPrefixOf_iff_prefix] at hnot
  exact hnot h

section Rename

variable {executable : Bool} (hrooted : tree.Rooted)
  (hfile : tree.at? place = some (.file content executable))

include hrooted hfile

/-- Only the file itself goes when it is erased. -/
lemma at?_erase_file (hother : other ≠ place) : (tree.erase place).at? other = tree.at? other := by
  by_cases hbelow : place <+: other
  · obtain ⟨rest, rfl⟩ := hbelow
    have hrest : rest ≠ [] := by
      rintro rfl
      exact hother (List.append_nil place)
    rw [hrooted.at?_below_file hfile hrest]
    exact at?_erase_of_below _ (by simp [hrest]) (List.prefix_append _ _)
  · exact at?_erase_of_not_below _ hbelow

lemma not_mem_below_file {name : String} {rest : Location} :
    (place ++ name :: rest, entry) ∉ tree.entries := by
  intro hmem
  have hnone := hrooted.at?_below_file hfile (List.cons_ne_nil name rest)
  rw [at?_of_ne_nil _ (by simp), Option.map_eq_none_iff, List.find?_eq_none] at hnone
  exact hnone _ hmem (beq_self_eq_true _)

lemma foldersStay_erase_file : FoldersStay tree (tree.erase place) where
  current := rfl
  folder other hfolder := by
    have hother : other ≠ place := by
      rintro rfl
      rw [hfile] at hfolder
      cases hfolder
    rw [at?_erase_file hrooted hfile hother]
    exact hfolder

lemma rooted_erase_file : (tree.erase place).Rooted := by
  intro parent name found hfound
  have hne : parent ++ [name] ≠ place := by
    rintro rfl
    rw [at?_erase_of_below _ (by simp) (List.prefix_refl _)] at hfound
    cases hfound
  rw [at?_erase_file hrooted hfile hne] at hfound
  exact (foldersStay_erase_file hrooted hfile).folder _ (hrooted _ _ _ hfound)

end Rename

lemma locate_of_rename (h : tree.rename source target = .ok later) :
    tree.locate target = .ok (target.placeFrom tree.current) := by
  rw [rename, bind_eq_ok] at h
  obtain ⟨here, -, h⟩ := h
  rw [bind_eq_ok] at h
  obtain ⟨there, hthere, -⟩ := h
  rw [← locate_eq_ok hthere]
  exact hthere

/-- Renaming a file erases it and puts it to where no folder is. -/
lemma rename_file_eq_ok {executable : Bool} (hrooted : tree.Rooted)
    (hfile : tree.at? (source.placeFrom tree.current) = some (.file content executable))
    (h : tree.rename source target = .ok later) :
    tree.at? (target.placeFrom tree.current) ≠ some .folder ∧
      later = (tree.erase (source.placeFrom tree.current)).put (target.placeFrom tree.current)
        (.file content executable) := by
  rw [rename, bind_eq_ok] at h
  obtain ⟨here, hhere, h⟩ := h
  rw [bind_eq_ok] at h
  obtain ⟨there, hthere, h⟩ := h
  rw [← locate_eq_ok hhere] at hfile ⊢
  rw [← locate_eq_ok hthere]
  constructor
  · intro hfolder
    rw [hfile, hfolder] at h
    cases h
  · rw [hfile] at h
    split at h
    all_goals cases h
    rename_i hsome _ _ _
    cases hsome
    -- nothing lies below a file, so nothing goes with it
    rw [List.filterMap_eq_nil_iff.mpr, List.append_nil]
    intro found hmem
    split
    · rename_i name rest hfront
      rw [List.isPrefixOf?_eq_some_iff_append_eq] at hfront
      rw [show found = (here ++ name :: rest, found.2) by rw [hfront]] at hmem
      exact absurd hmem (not_mem_below_file hrooted hfile)
    · rfl

/-- Renaming moves a file with all it holds. -/
lemma movesFile_rename {executable : Bool} (hrooted : tree.Rooted)
    (hfile : tree.at? (source.placeFrom tree.current) = some (.file content executable))
    (h : tree.rename source target = .ok later) :
    MovesFile tree (source.placeFrom tree.current) (target.placeFrom tree.current) later := by
  obtain ⟨hfree, hlater⟩ := rename_file_eq_ok hrooted hfile h
  have hthere := locate_of_rename h
  generalize source.placeFrom tree.current = here at *
  generalize target.placeFrom tree.current = there at *
  have hne : there ≠ [] := by
    rintro rfl
    exact hfree rfl
  have hstay := foldersStay_erase_file hrooted hfile
  have hfree' : (tree.erase here).at? there ≠ some .folder := by
    by_cases heq : there = here
    · rw [heq, at?_erase_of_below _ (heq ▸ hne) (List.prefix_refl _)]
      simp
    · rwa [at?_erase_file hrooted hfile heq]
  have hput := putsFile_put (locate_of_foldersStay hstay hthere) hfree' content executable
  rw [hlater]
  exact
    { stay := ⟨rfl, fun other h => hput.stay.folder other (hstay.folder other h)⟩
      kept := fun other hother => by
        rw [List.mem_cons, List.mem_singleton, not_or] at hother
        rw [at?_put_of_ne _ hother.2, at?_erase_file hrooted hfile hother.1]
        exact .inl rfl
      rooted := fun _ => hput.rooted (rooted_erase_file hrooted hfile)
      moved := by rw [at?_put_self _ hne, hfile]
      gone := fun heq => by
        have hhere : here ≠ [] := by
          rintro rfl
          cases hfile
        rw [at?_put_of_ne _ heq, at?_erase_of_below _ hhere (List.prefix_refl _)] }

end Cartridge.Files.FileTree
