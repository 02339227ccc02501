import Cartridge.Proofs.Build.CacheTurns
import Cartridge.Proofs.Files.Listing

/-!
# Objects of a compile plan

All objects of a build lie in one folder and are named after their sources without folders and
extensions.  So two sources of a plan share their object exactly when their file names agree up to
the extension (`objectPath_eq_iff`); the main result, `objects_shared_iff_stems_agree`, says what
follows from that for built objects and for the object cache.
-/

namespace Cartridge.Files.FilePath

variable {path : FilePath} {name stem : String}

/-! ## File names -/

lemma eq_of_component? {piece : List Char} (h : component? piece = some (.name name)) :
    name = String.ofList piece := by
  unfold component? at h
  split at h
  · cases h
  · cases h
  · cases h
  · cases h
    rfl

lemma exists_piece_of_mem_components (h : .name name ∈ path.components) :
    ∃ piece ∈ path.pieces, component? piece = some (.name name) := by
  unfold components at h
  split at h
  · exact absurd h List.not_mem_nil
  · rename_i head rest hpieces
    have hpath : path.pieces = head :: rest := hpieces
    rw [hpath]
    rcases List.mem_append.mp h with h | h
    · refine ⟨head, List.mem_cons_self, ?_⟩
      split_ifs at h
      · cases List.mem_singleton.mp h
      · cases List.mem_singleton.mp h
      · exact Option.mem_toList.mp h
    · obtain ⟨piece, hpiece, hname⟩ := List.mem_filterMap.mp h
      exact ⟨piece, List.mem_cons_of_mem _ hpiece, hname⟩

lemma slash_not_mem_fileName (h : path.fileName? = some name) : '/' ∉ name.toList := by
  unfold fileName? at h
  split at h
  · rename_i text hlast
    cases h
    obtain ⟨piece, hpiece, hname⟩ :=
      exists_piece_of_mem_components (List.mem_of_getLast? hlast)
    rw [eq_of_component? hname, String.toList_ofList]
    intro hslash
    exact Bool.noConfusion (Text.mem_of_mem_pieces hpiece hslash).2
  · cases h

lemma slash_not_mem_fileStem (h : path.fileStem? = some stem) : '/' ∉ stem.toList := by
  obtain ⟨name, hname, rfl⟩ := Option.map_eq_some_iff.mp h
  have hslash := slash_not_mem_fileName hname
  unfold splitName
  split
  · exact hslash
  · exact hslash
  · exact hslash
  · intro hmem
    rcases Text.mem_of_mem_joinWith hmem with hdot | ⟨text, htext, hmem⟩
    · exact absurd hdot (by decide)
    · obtain ⟨piece, hpiece, rfl⟩ := List.mem_map.mp htext
      rw [String.toList_ofList] at hmem
      exact hslash (Text.mem_of_mem_pieces (List.dropLast_subset _ hpiece) hmem).1

end Cartridge.Files.FilePath

namespace Cartridge.Build

open Cartridge.Digest (Key)
open Cartridge.Files (FileTree FilePath Location IsName)

variable {tree before later : FileTree} {root source : FilePath} {features : Features}
  {toolchain : Toolchain} {stem : String} {current : Location}

/-! ## Paths of objects -/

lemma isName_object (h : '/' ∉ stem.toList) : IsName (stem ++ ".o") := by
  refine ⟨?_, ?_⟩
  · rw [String.toList_append, List.mem_append, not_or]
    exact ⟨h, by decide⟩
  · have hlast : (stem ++ ".o").toList.getLast? = some 'o' := by
      rw [String.toList_append, List.getLast?_append]
      rfl
    unfold FilePath.component?
    split
    · rename_i hchars
      rw [hchars] at hlast
      cases hlast
    · rename_i hchars
      rw [hchars] at hlast
      cases hlast
    · rename_i hchars
      rw [hchars] at hlast
      cases hlast
    · rw [String.ofList_toList]

lemma exists_fileStem_of_isSource (h : isSource source = true) :
    ∃ stem, source.fileStem? = some stem := by
  rw [FilePath.fileStem?]
  cases hname : source.fileName? with
  | none =>
    rw [isSource, FilePath.extension?, hname] at h
    cases h
  | some name => exact ⟨_, rfl⟩

lemma objectPath_text (h : source.fileStem? = some stem) :
    (objectPath source).text = "obj" ++ "/" ++ (stem ++ ".o") := by
  have habsolute := (isName_object (FilePath.slash_not_mem_fileStem h)).isAbsolute_eq
  rw [objectPath, h, Option.getD_some, FilePath.join, habsolute]
  rfl

/-- Objects are shared exactly by sources whose names agree up to the extension. -/
lemma objectPath_eq_iff {other : FilePath} (h : isSource source = true)
    (h' : isSource other = true) :
    objectPath source = objectPath other ↔ source.fileStem? = other.fileStem? := by
  refine ⟨fun heq => ?_, fun heq => by rw [objectPath, objectPath, heq]⟩
  obtain ⟨stem, hstem⟩ := exists_fileStem_of_isSource h
  obtain ⟨stem', hstem'⟩ := exists_fileStem_of_isSource h'
  have htext := congrArg (fun path => path.text.toList) heq
  simp only [objectPath_text hstem, objectPath_text hstem', String.toList_append,
    List.append_cancel_left_eq, List.append_cancel_right_eq] at htext
  rw [hstem, hstem', String.toList_injective htext]

/-- An object lies in the folder of objects under the name of its source. -/
lemma placeFrom_objectPath (h : source.fileStem? = some stem) :
    (root.join (objectPath source).text).placeFrom current =
      root.placeFrom current ++ ["obj", stem ++ ".o"] := by
  have hname := isName_object (FilePath.slash_not_mem_fileStem h)
  have hobj : IsName "obj" := by decide
  have hpieces : (FilePath.mk (objectPath source).text).pieces =
      ["obj".toList, (stem ++ ".o").toList] := by
    rw [FilePath.pieces, objectPath_text h, String.toList_append, String.toList_append,
      List.append_assoc]
    exact (Text.pieces_append_separator '/' _ _).trans
      (congrArg₂ _ hobj.pieces_eq hname.pieces_eq)
  have habsolute : (FilePath.mk (objectPath source).text).isAbsolute = false := by
    rw [objectPath_text h, FilePath.isAbsolute, String.toList_append, String.toList_append,
      List.append_assoc]
    rfl
  rw [FilePath.placeFrom_join _ habsolute, hpieces, List.foldl_cons, List.foldl_cons,
    List.foldl_nil, hobj.follow_eq, hname.follow_eq, List.append_assoc]
  rfl

/-! ## Plans -/

lemma mem_compilePlan {job : CompileJob} (h : job ∈ compilePlan tree root features toolchain) :
    isSource job.source = true ∧ job.object = objectPath job.source := by
  obtain ⟨source, hsource, rfl⟩ := List.mem_map.mp h
  have hfilter := (List.mem_filter.mp hsource).2
  rw [Bool.and_eq_true] at hfilter
  exact ⟨hfilter.1, rfl⟩

lemma nodup_sourceFiles (h : tree.Regular) (root : FilePath) (features : Features) :
    (sourceFiles tree root features).Nodup := by
  refine List.Nodup.filter _ ?_
  refine List.Nodup.map_on (fun first hfirst second hsecond heq => ?_) (h.nodup_listing _)
  have hplaces := congrArg (FilePath.placeFrom []) heq
  rw [FilePath.placeFrom_joinAll (h.isName_of_mem_listing hfirst),
    FilePath.placeFrom_joinAll (h.isName_of_mem_listing hsecond)] at hplaces
  exact List.append_cancel_left hplaces

/-- The objects of a plan are different exactly when the stems of its sources are. -/
lemma nodup_objects_iff :
    ((compilePlan tree root features toolchain).map (·.object)).Nodup ↔
      ((compilePlan tree root features toolchain).map (·.source.fileStem?)).Nodup := by
  rw [List.Nodup, List.Nodup, List.pairwise_map, List.pairwise_map]
  refine List.Pairwise.iff_of_mem fun {a b} ha hb => ?_
  obtain ⟨hsource, hobject⟩ := mem_compilePlan ha
  obtain ⟨hsource', hobject'⟩ := mem_compilePlan hb
  rw [hobject, hobject', Ne, Ne, objectPath_eq_iff hsource hsource']

/-- Objects of different stems lie in different places. -/
lemma place_ne_of_stem_ne {a b : CompileJob} (ha : a ∈ compilePlan tree root features toolchain)
    (hb : b ∈ compilePlan tree root features toolchain)
    (hne : a.source.fileStem? ≠ b.source.fileStem?) (current : Location) :
    (root.join b.object.text).placeFrom current ≠ (root.join a.object.text).placeFrom current := by
  obtain ⟨hsource, hobject⟩ := mem_compilePlan ha
  obtain ⟨hsource', hobject'⟩ := mem_compilePlan hb
  obtain ⟨stem, hstem⟩ := exists_fileStem_of_isSource hsource
  obtain ⟨stem', hstem'⟩ := exists_fileStem_of_isSource hsource'
  rw [hobject, hobject', placeFrom_objectPath hstem, placeFrom_objectPath hstem']
  intro heq
  have hnames := List.append_cancel_left heq
  simp only [List.cons.injEq, and_true, true_and] at hnames
  have hchars := congrArg String.toList hnames
  rw [String.toList_append, String.toList_append] at hchars
  rw [hstem, hstem', String.toList_injective (List.append_cancel_right hchars)] at hne
  exact hne rfl

/-- The sources of a plan are different, but two of them share their object exactly when their names
agree up to the extension.  Then, and only then, the object of the one makes the other count as
built, and a store files the object of the one under the key of the other; otherwise each keeps its
own. -/
theorem objects_shared_iff_stems_agree (hregular : tree.Regular) (root : FilePath)
    (features : Features) (toolchain : Toolchain) :
    (sourceFiles tree root features).Nodup ∧
    (((compilePlan tree root features toolchain).map (·.object)).Nodup ↔
      ((compilePlan tree root features toolchain).map (·.source.fileStem?)).Nodup) ∧
    ∀ a ∈ compilePlan tree root features toolchain,
    ∀ b ∈ compilePlan tree root features toolchain,
      (a.object = b.object ↔ a.source.fileStem? = b.source.fileStem?) ∧
      ∀ (before later : FileTree) (data : ByteArray),
        before.write (root.join a.object.text) data = .ok later →
        (b.isBuilt later root = true ↔
          a.source.fileStem? = b.source.fileStem? ∨ b.isBuilt before root = true) ∧
        ∀ (cache : ObjectCache) (context : Context) (key : Key) (after : World),
          before.Rooted → IsHex key → ObjectCache.Apart cache.root root later.current b →
          (cache.storeOne root b key).run ⟨later, context⟩ = (.ok { stored := 1 }, after) →
          ∃ stored, after.tree.read (cache.objectFile key) = .ok stored ∧
            if a.source.fileStem? = b.source.fileStem? then stored = data
            else before.read (root.join b.object.text) = .ok stored := by
  refine ⟨nodup_sourceFiles hregular root features, nodup_objects_iff, fun a ha b hb => ?_⟩
  have hshared : a.object = b.object ↔ a.source.fileStem? = b.source.fileStem? := by
    obtain ⟨hsource, hobject⟩ := mem_compilePlan ha
    obtain ⟨hsource', hobject'⟩ := mem_compilePlan hb
    rw [hobject, hobject', objectPath_eq_iff hsource hsource']
  refine ⟨hshared, fun before later data hwrite => ⟨?_, ?_⟩⟩
  · rw [CompileJob.isBuilt, CompileJob.isBuilt, FileTree.isFile_iff, FileTree.isFile_iff]
    by_cases hstems : a.source.fileStem? = b.source.fileStem?
    · obtain ⟨content, executable, hfind, -⟩ :=
        FileTree.read_eq_ok_iff.mp (FileTree.read_write hwrite)
      rw [hshared.mpr hstems] at hfind
      exact ⟨fun _ => .inl hstems, fun _ => ⟨content, executable, hfind⟩⟩
    · have hne := place_ne_of_stem_ne ha hb hstems before.current
      simp only [FileTree.find_write_iff hwrite hne, hstems, false_or]
  · intro cache context key after hrooted hkey hapart hstore
    obtain ⟨stored, hread, hstored⟩ := ObjectCache.read_objectFile_of_stored hkey hapart rfl
      ((FileTree.putsFile_write hwrite).rooted hrooted) hstore
    refine ⟨stored, hstored, ?_⟩
    split_ifs with hstems
    · rw [← hshared.mpr hstems, FileTree.read_write hwrite] at hread
      exact (Except.ok.inj hread).symm
    · have hne := place_ne_of_stem_ne ha hb hstems before.current
      obtain ⟨content, executable, hfind, hdata⟩ := FileTree.read_eq_ok_iff.mp hread
      rw [FileTree.find_write_iff hwrite hne] at hfind
      exact FileTree.read_eq_ok_iff.mpr ⟨content, executable, hfind, hdata⟩

/-- A build with two sources of one name in two folders. -/
def twinTree : FileTree where
  entries := [(["tree"], .folder), (["tree", "obj"], .folder), (["tree", "src"], .folder),
    (["tree", "src", "core"], .folder),
    (["tree", "src", "core", "vm.c"], .file (.bytes ⟨#[1]⟩) false),
    (["tree", "src", "data"], .folder),
    (["tree", "src", "data", "vm.c"], .file (.bytes ⟨#[2]⟩) false)]

lemma regular_twinTree : twinTree.Regular where
  nodup := by decide
  names := by decide

lemma rooted_twinTree : twinTree.Rooted := by
  refine .of_entries fun found hfound => ?_
  simp only [twinTree, List.mem_cons, List.not_mem_nil, or_false] at hfound
  rcases hfound with rfl | rfl | rfl | rfl | rfl | rfl | rfl <;> rfl

/-- Features without anything special. -/
def twinFeatures : Features where
  platform := .gameBoy
  colorMode := .mono
  sgb := false
  batteryless := false
  controller := .mbc5
  musicDriver := .hugeTracker
  preset := 3000
  debug := false

/-- The job of the source in a folder. -/
def twinJob (folder : String) : CompileJob :=
  compileJob twinFeatures (.gbdk ⟨"/opt/gbdk"⟩) ((⟨"src"⟩ : FilePath).joinAll [folder, "vm.c"])

lemma twinJob_mem_compilePlan {folder : String} (h : folder ∈ ["core", "data"]) :
    twinJob folder ∈ compilePlan twinTree ⟨"tree"⟩ twinFeatures (.gbdk ⟨"/opt/gbdk"⟩) := by
  have hlisted : [folder, "vm.c"] ∈ twinTree.listing ((⟨"tree"⟩ : FilePath).join "src") := by
    rw [regular_twinTree.mem_listing]
    simp only [List.mem_cons, List.not_mem_nil, or_false] at h
    rcases h with rfl | rfl
    · exact ⟨by decide, by simp, .bytes ⟨#[1]⟩, false, rfl⟩
    · exact ⟨by decide, by simp, .bytes ⟨#[2]⟩, false, rfl⟩
  refine List.mem_map_of_mem (List.mem_filter.mpr ⟨List.mem_map_of_mem hlisted, ?_⟩)
  simp only [List.mem_cons, List.not_mem_nil, or_false] at h
  rcases h with rfl | rfl <;> decide

/-- The object of the one twin makes the other count as built and gets under its key. -/
theorem objects_shared_iff_stems_agree_twins :
    (sourceFiles twinTree ⟨"tree"⟩ twinFeatures).Nodup ∧
    ∃ later, twinTree.write (FilePath.join ⟨"tree"⟩ (twinJob "core").object.text) ⟨#[7]⟩ =
        .ok later ∧
      (twinJob "data").isBuilt later ⟨"tree"⟩ = true ∧
      ∃ after, (ObjectCache.storeOne ⟨⟨"cache"⟩, 1⟩ ⟨"tree"⟩ (twinJob "data") ⟨"ab"⟩).run
          ⟨later, {}⟩ = (.ok { stored := 1 }, after) ∧
        after.tree.read (ObjectCache.objectFile ⟨⟨"cache"⟩, 1⟩ ⟨"ab"⟩) = .ok ⟨#[7]⟩ := by
  obtain ⟨hnodup, -, hpairs⟩ := objects_shared_iff_stems_agree regular_twinTree ⟨"tree"⟩
    twinFeatures (.gbdk ⟨"/opt/gbdk"⟩)
  obtain ⟨-, hwritten⟩ := hpairs _ (twinJob_mem_compilePlan (by decide : "core" ∈ _)) _
    (twinJob_mem_compilePlan (by decide : "data" ∈ _))
  have hwrite : twinTree.write (FilePath.join ⟨"tree"⟩ (twinJob "core").object.text) ⟨#[7]⟩ =
      .ok (twinTree.put ["tree", "obj", "vm.o"] (.file (.bytes ⟨#[7]⟩) false)) := by
    rfl
  obtain ⟨hbuilt, hstored⟩ := hwritten _ _ _ hwrite
  refine ⟨hnodup, _, hwrite, hbuilt.mpr (.inl (by decide)), ?_⟩
  have hcount : ((ObjectCache.storeOne ⟨⟨"cache"⟩, 1⟩ ⟨"tree"⟩ (twinJob "data") ⟨"ab"⟩).run
      ⟨twinTree.put ["tree", "obj", "vm.o"] (.file (.bytes ⟨#[7]⟩) false), {}⟩).1.toOption.map
        (·.stored) = some 1 := by
    decide +kernel
  rcases hrun : (ObjectCache.storeOne ⟨⟨"cache"⟩, 1⟩ ⟨"tree"⟩ (twinJob "data") ⟨"ab"⟩).run
    ⟨twinTree.put ["tree", "obj", "vm.o"] (.file (.bytes ⟨#[7]⟩) false), {}⟩ with ⟨result, after⟩
  rw [hrun] at hcount
  obtain ⟨-, rfl⟩ | ⟨-, -, ⟨_, rfl, -⟩ | ⟨rfl, -⟩⟩ := ObjectCache.storeOne_cases hrun
  · cases hcount
  · cases hcount
  · obtain ⟨stored, hread, heq⟩ := hstored ⟨⟨"cache"⟩, 1⟩ {} ⟨"ab"⟩ after rooted_twinTree
      (by decide) (by unfold ObjectCache.Apart; decide) hrun
    rw [if_pos (by decide)] at heq
    exact ⟨after, rfl, heq ▸ hread⟩

/-- Two different sources of one plan have one object. -/
theorem twin_sources_share_object :
    ∃ a ∈ compilePlan twinTree ⟨"tree"⟩ twinFeatures (.gbdk ⟨"/opt/gbdk"⟩),
    ∃ b ∈ compilePlan twinTree ⟨"tree"⟩ twinFeatures (.gbdk ⟨"/opt/gbdk"⟩),
      a.source ≠ b.source ∧ a.object = b.object :=
  ⟨twinJob "core", twinJob_mem_compilePlan (by decide), twinJob "data",
    twinJob_mem_compilePlan (by decide), by decide, by decide⟩

end Cartridge.Build
