import Mathlib.Data.List.Nodup
import Cartridge.Proofs.Files.Changes

/-!
# Files below a folder

A listing holds the files below a folder, once each and in the order of their locations.  So the
listings of two folders are equal as soon as they hold the same locations
(`FileTree.listing_eq_of_mem_iff`).

A tree is `Regular` when each location stands once and is made of names, as it is on a disk.
-/

namespace Cartridge.Files

/-! ## Order of locations -/

lemma locationLe_total (a b : Location) : (locationLe a b || locationLe b a) = true := by
  induction a generalizing b with
  | nil => rfl
  | cons a as ih =>
    cases b with
    | nil => rfl
    | cons b bs =>
      by_cases h : a = b
      · subst h
        simpa [locationLe] using ih bs
      · simpa [locationLe, h, Ne.symm h] using String.le_total a b

lemma locationLe_trans (a b c : Location) (hab : locationLe a b = true)
    (hbc : locationLe b c = true) : locationLe a c = true := by
  induction a generalizing b c with
  | nil => rfl
  | cons a as ih =>
    cases b with
    | nil => cases hab
    | cons b bs =>
      cases c with
      | nil => cases hbc
      | cons c cs =>
        by_cases hab' : a = b
        · subst hab'
          by_cases hbc' : a = c
          · subst hbc'
            rw [locationLe, if_pos rfl] at hab hbc ⊢
            exact ih bs cs hab hbc
          · rwa [locationLe, if_neg hbc'] at hbc ⊢
        · rw [locationLe, if_neg hab', decide_eq_true_eq] at hab
          by_cases hbc' : b = c
          · subst hbc'
            rwa [locationLe, if_neg hab', decide_eq_true_eq]
          · rw [locationLe, if_neg hbc', decide_eq_true_eq] at hbc
            have hac : a ≠ c := by
              rintro rfl
              exact hab' (String.le_antisymm hab hbc)
            rw [locationLe, if_neg hac, decide_eq_true_eq]
            exact String.le_trans hab hbc

lemma locationLe_antisymm {a b : Location} (hab : locationLe a b = true)
    (hba : locationLe b a = true) : a = b := by
  induction a generalizing b with
  | nil =>
    cases b with
    | nil => rfl
    | cons b bs => cases hba
  | cons a as ih =>
    cases b with
    | nil => cases hab
    | cons b bs =>
      by_cases h : a = b
      · subst h
        rw [locationLe, if_pos rfl] at hab hba
        rw [ih hab hba]
      · rw [locationLe, if_neg h, decide_eq_true_eq] at hab
        rw [locationLe, if_neg (Ne.symm h), decide_eq_true_eq] at hba
        exact absurd (String.le_antisymm hab hba) h

namespace FileTree

variable {tree other : FileTree} {folder folder' : FilePath} {place location : Location}

/-! ## Regular trees -/

/-- Each location stands once and is made of names. -/
structure Regular (tree : FileTree) : Prop where
  nodup : (tree.entries.map Prod.fst).Nodup
  names : ∀ entry ∈ tree.entries, ∀ name ∈ entry.1, IsName name

lemma Regular.at?_eq_some_iff (h : tree.Regular) {entry : Entry} (hplace : place ≠ []) :
    tree.at? place = some entry ↔ (place, entry) ∈ tree.entries := by
  refine ⟨mem_of_at?_eq_some hplace, fun hmem => ?_⟩
  rw [at?_of_ne_nil _ hplace]
  cases hfind : tree.entries.find? fun entry => entry.1 == place with
  | none => exact absurd (beq_self_eq_true place) (List.find?_eq_none.mp hfind _ hmem)
  | some found =>
    have hfirst : found.1 = place := by simpa using List.find?_some hfind
    have heq := List.inj_on_of_nodup_map h.nodup (List.mem_of_find?_eq_some hfind) hmem hfirst
    rw [heq]
    rfl

/-! ## Listings -/

lemma mem_filesBelow_iff : location ∈ tree.filesBelow place ↔
    location ≠ [] ∧ ∃ content executable,
      (place ++ location, .file content executable) ∈ tree.entries := by
  rw [filesBelow, List.mem_mergeSort, List.mem_filter, List.mem_filterMap, and_comm]
  refine and_congr (by simp) ⟨?_, ?_⟩
  · rintro ⟨⟨found, entry⟩, hmem, hfound⟩
    cases entry with
    | folder => cases hfound
    | file content executable =>
      have hfront := List.isPrefixOf?_eq_some_iff_append_eq.mp hfound
      exact ⟨content, executable, hfront ▸ hmem⟩
  · rintro ⟨content, executable, hmem⟩
    exact ⟨_, hmem, List.isPrefixOf?_eq_some_iff_append_eq.mpr rfl⟩

lemma Regular.mem_filesBelow (h : tree.Regular) : location ∈ tree.filesBelow place ↔
    location ≠ [] ∧ ∃ content executable,
      tree.at? (place ++ location) = some (.file content executable) := by
  rw [mem_filesBelow_iff]
  refine and_congr_right fun hlocation => ?_
  simp only [h.at?_eq_some_iff (List.append_ne_nil_of_right_ne_nil place hlocation)]

lemma Regular.nodup_filesBelow (h : tree.Regular) (place : Location) :
    (tree.filesBelow place).Nodup := by
  rw [filesBelow, (List.mergeSort_perm _ _).nodup_iff]
  refine List.Nodup.filter _ ?_
  rw [List.Nodup, List.pairwise_filterMap]
  refine (List.pairwise_map.mp h.nodup).imp ?_
  rintro ⟨a, entry⟩ ⟨b, other⟩ hne below hbelow below' hbelow' rfl
  cases entry with
  | folder => cases hbelow
  | file content executable =>
    cases other with
    | folder => cases hbelow'
    | file content' executable' =>
      have ha := List.isPrefixOf?_eq_some_iff_append_eq.mp hbelow
      have hb := List.isPrefixOf?_eq_some_iff_append_eq.mp hbelow'
      exact hne (ha.symm.trans hb)

lemma pairwise_filesBelow (tree : FileTree) (place : Location) :
    (tree.filesBelow place).Pairwise fun a b => locationLe a b = true :=
  List.pairwise_mergeSort locationLe_trans locationLe_total _

lemma isFolder_iff : tree.isFolder folder = true ↔ tree.find folder = .ok .folder := by
  unfold isFolder
  split
  · rename_i hfind
    simp [hfind]
  · rename_i hnot
    simpa using hnot

lemma listing_of_isFolder (h : tree.isFolder folder = true) :
    tree.listing folder = tree.filesBelow (folder.placeFrom tree.current) := by
  obtain ⟨place, hlocate, -⟩ := find_eq_ok_iff.mp (isFolder_iff.mp h)
  rw [listing, h, hlocate, locate_eq_ok hlocate]

lemma listing_of_not_isFolder (h : tree.isFolder folder = false) : tree.listing folder = [] := by
  rw [listing, h]

/-- The files of a listing are those that stand below the folder. -/
lemma Regular.mem_listing (h : tree.Regular) : location ∈ tree.listing folder ↔
    tree.isFolder folder = true ∧ location ≠ [] ∧ ∃ content executable,
      tree.at? (folder.placeFrom tree.current ++ location) = some (.file content executable) := by
  cases hfolder : tree.isFolder folder with
  | false => simp [listing_of_not_isFolder hfolder]
  | true => simp [listing_of_isFolder hfolder, h.mem_filesBelow]

lemma Regular.isName_of_mem_listing (h : tree.Regular) (hmem : location ∈ tree.listing folder) :
    ∀ name ∈ location, IsName name := by
  obtain ⟨-, hne, content, executable, hfile⟩ := h.mem_listing.mp hmem
  have hentry := mem_of_at?_eq_some (List.append_ne_nil_of_right_ne_nil _ hne) hfile
  exact fun name hname => h.names _ hentry name (List.mem_append_right _ hname)

lemma Regular.nodup_listing (h : tree.Regular) (folder : FilePath) :
    (tree.listing folder).Nodup := by
  cases hfolder : tree.isFolder folder with
  | false => simp [listing_of_not_isFolder hfolder]
  | true => simp [listing_of_isFolder hfolder, h.nodup_filesBelow]

lemma pairwise_listing (tree : FileTree) (folder : FilePath) :
    (tree.listing folder).Pairwise fun a b => locationLe a b = true := by
  cases hfolder : tree.isFolder folder with
  | false => simp [listing_of_not_isFolder hfolder]
  | true => simp [listing_of_isFolder hfolder, pairwise_filesBelow]

/-- Listings with the same locations are equal. -/
lemma Regular.listing_eq_of_mem_iff (h : tree.Regular) (h' : other.Regular)
    (hmem : ∀ location, location ∈ tree.listing folder ↔ location ∈ other.listing folder') :
    tree.listing folder = other.listing folder' := by
  have hperm : (tree.listing folder).Perm (other.listing folder') :=
    (List.perm_ext_iff_of_nodup (h.nodup_listing folder) (h'.nodup_listing folder')).mpr hmem
  exact hperm.eq_of_pairwise (fun a b _ _ hab hba => locationLe_antisymm hab hba)
    (pairwise_listing tree folder) (pairwise_listing other folder')

/-! ## Files that can be read -/

/-- A path below a folder is looked up through the folder. -/
lemma exists_folder_of_resolve_joinAll {names : List String} (hnames : ∀ name ∈ names, IsName name)
    (hne : names ≠ []) (h : tree.resolve (folder.joinAll names) = .ok place) :
    ∃ base, tree.resolve folder = .ok base ∧ tree.at? base = some .folder := by
  induction names generalizing folder with
  | nil => exact absurd rfl hne
  | cons name rest ih =>
    rw [List.forall_mem_cons] at hnames
    have hjoin : ∃ next, tree.resolve (folder.join name) = .ok next := by
      cases rest with
      | nil => exact ⟨place, h⟩
      | cons second rest =>
        obtain ⟨base, hbase, -⟩ := ih hnames.2 (List.cons_ne_nil _ _) h
        exact ⟨base, hbase⟩
    obtain ⟨next, hnext⟩ := hjoin
    rw [resolve_join_name _ _ hnames.1, bind_eq_ok] at hnext
    obtain ⟨base, hbase, hstep⟩ := hnext
    exact ⟨base, hbase, (step_eq_ok hstep).1⟩

lemma exists_text_join (path : FilePath) {name : String} (h : IsName name) :
    ∃ more, (path.join name).text = path.text ++ more := by
  rw [FilePath.join, if_neg (by rw [h.isAbsolute_eq]; exact Bool.false_ne_true)]
  split_ifs
  · exact ⟨name, rfl⟩
  · exact ⟨"/" ++ name, String.append_assoc⟩

lemma exists_text_joinAll (path : FilePath) {names : List String}
    (h : ∀ name ∈ names, IsName name) :
    ∃ more, (path.joinAll names).text = path.text ++ more := by
  induction names generalizing path with
  | nil => exact ⟨"", String.append_empty.symm⟩
  | cons name rest ih =>
    rw [List.forall_mem_cons] at h
    obtain ⟨first, hfirst⟩ := exists_text_join path h.1
    obtain ⟨more, hmore⟩ := ih (path.join name) h.2
    refine ⟨first ++ more, ?_⟩
    rw [← String.append_assoc, ← hfirst]
    exact hmore

lemma acceptable_of_append {path longer : FilePath} {more : String} (hne : path.text ≠ "")
    (htext : longer.text = path.text ++ more) (h : longer.Acceptable) : path.Acceptable := by
  obtain ⟨-, hzero, hsize⟩ := h
  rw [htext, String.toList_append, List.mem_append, not_or] at hzero
  rw [htext, String.utf8ByteSize_append] at hsize
  exact ⟨hne, hzero.1, by omega⟩

/-- A file that can be read below a folder is in its listing. -/
lemma Regular.mem_listing_of_read (h : tree.Regular) (hfolder : folder.text ≠ "")
    (hnames : ∀ name ∈ location, IsName name) (hne : location ≠ []) {data : ByteArray}
    (hread : tree.read (folder.joinAll location) = .ok data) :
    location ∈ tree.listing folder := by
  obtain ⟨content, executable, hfind, -⟩ := read_eq_ok_iff.mp hread
  obtain ⟨place, hlocate, hfile⟩ := find_eq_ok_iff.mp hfind
  have hplace := locate_eq_ok hlocate
  rw [FilePath.placeFrom_joinAll hnames] at hplace
  rw [locate_eq_ok_iff] at hlocate
  obtain ⟨base, hbase, hbaseFolder⟩ := exists_folder_of_resolve_joinAll hnames hne hlocate.2
  obtain ⟨more, hmore⟩ := exists_text_joinAll folder hnames
  have hlocateFolder : tree.locate folder = .ok base :=
    locate_eq_ok_iff.mpr ⟨acceptable_of_append hfolder hmore hlocate.1, hbase⟩
  have hisFolder : tree.isFolder folder = true :=
    isFolder_iff.mpr (find_eq_ok_iff.mpr ⟨base, hlocateFolder, hbaseFolder⟩)
  exact h.mem_listing.mpr ⟨hisFolder, hne, content, executable, hplace ▸ hfile⟩

end FileTree

end Cartridge.Files
