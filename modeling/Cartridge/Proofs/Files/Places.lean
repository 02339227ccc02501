import Cartridge.Files.Tree
import Cartridge.Proofs.List.Steps
import Cartridge.Proofs.Text.Pieces

/-!
# Where paths lead

A path is looked up piece by piece, through folders that exist.  The folders decide whether the
look-up gets through, but not where it ends: `FilePath.placeFrom` tells from the text alone where a
path leads, and what is located is located there (`FileTree.locate_eq_ok_iff`).

Looking up a joined path is looking up the first part and going on from there
(`FileTree.resolve_join`).  A folder that is there already leads the same way later, so a path that
was located once is located again as long as no folder goes away (`FileTree.locate_of_foldersStay`).
-/

namespace Cartridge.Files

/-! ## Places -/

/-- The pieces of a path. -/
def FilePath.pieces (path : FilePath) : List (List Char) :=
  Text.pieces (· == '/') path.text.toList

/-- Where the look-up of a path begins. -/
def FilePath.start (current : Location) (path : FilePath) : Location :=
  if path.isAbsolute then [] else current

/-- Where a piece leads from a location. -/
def follow (place : Location) (piece : List Char) : Location :=
  match FilePath.component? piece with
  | some (.name name) => place ++ [name]
  | some .up => place.dropLast
  | _ => place

/-- Where a path leads, whatever stands on the way. -/
def FilePath.placeFrom (current : Location) (path : FilePath) : Location :=
  path.pieces.foldl follow (path.start current)

@[simp] lemma follow_nil (place : Location) : follow place [] = place := rfl

/-- The pieces of a joined path are those of its parts, but for an empty one between them. -/
lemma FilePath.exists_front_join (path : FilePath) {below : String}
    (hbelow : (FilePath.mk below).isAbsolute = false) :
    ∃ front, (path.join below).pieces = front ++ (FilePath.mk below).pieces ∧
      (path.pieces = front ∨ path.pieces = front ++ [[]]) ∧
      ∀ current, (path.join below).start current = path.start current := by
  obtain ⟨text⟩ := path
  rw [join, if_neg (by rw [hbelow]; exact Bool.false_ne_true)]
  split_ifs with hidle
  · rw [Bool.or_eq_true, beq_iff_eq, beq_iff_eq] at hidle
    rcases hidle with hempty | hlast
    · obtain rfl : text = "" := hempty
      refine ⟨[], ?_, .inr rfl, fun current => ?_⟩
      · rw [String.empty_append, List.nil_append]
      · rw [String.empty_append, start, hbelow]
        rfl
    · obtain ⟨front, hfront⟩ := List.getLast?_eq_some_iff.mp hlast
      have hfront : text.toList = front ++ ['/'] := hfront
      refine ⟨Text.pieces (· == '/') front, ?_, .inr ?_, fun current => ?_⟩
      · simp only [FilePath.pieces, String.toList_append, hfront, List.append_assoc]
        exact Text.pieces_append_separator '/' front below.toList
      · simp only [FilePath.pieces, hfront]
        exact Text.pieces_append_separator '/' front []
      · simp only [FilePath.start, isAbsolute, String.toList_append, hfront]
        cases front <;> rfl
  · rw [Bool.or_eq_true, beq_iff_eq, beq_iff_eq, not_or] at hidle
    refine ⟨_, ?_, .inl rfl, fun current => ?_⟩
    · simp only [FilePath.pieces, String.toList_append, List.append_assoc]
      exact Text.pieces_append_separator '/' text.toList below.toList
    · have hne : text.toList ≠ [] := fun h => hidle.1 (String.toList_eq_nil_iff.mp h)
      obtain ⟨c, rest, hchars⟩ := List.exists_cons_of_ne_nil hne
      simp only [FilePath.start, isAbsolute, String.toList_append, hchars]
      rfl

lemma FilePath.placeFrom_join (path : FilePath) {below : String}
    (hbelow : (FilePath.mk below).isAbsolute = false) (current : Location) :
    (path.join below).placeFrom current =
      (FilePath.mk below).pieces.foldl follow (path.placeFrom current) := by
  obtain ⟨front, hpieces, hpath, hstart⟩ := path.exists_front_join hbelow
  rw [placeFrom, placeFrom, hpieces, hstart, List.foldl_append]
  rcases hpath with hpath | hpath
  · rw [hpath]
  · rw [hpath, List.foldl_append, List.foldl_cons, List.foldl_nil, follow_nil]

/-! ## Names -/

/-- A text that stands for itself in a path. -/
def IsName (name : String) : Prop :=
  '/' ∉ name.toList ∧ FilePath.component? name.toList = some (.name name)

instance (name : String) : Decidable (IsName name) :=
  inferInstanceAs (Decidable (_ ∧ _))

namespace IsName

variable {name : String}

lemma pieces_eq (h : IsName name) : (FilePath.mk name).pieces = [name.toList] :=
  Text.pieces_eq_singleton fun c hc => by
    rw [beq_eq_false_iff_ne]
    exact fun heq => h.1 (heq ▸ hc)

lemma isAbsolute_eq (h : IsName name) : (FilePath.mk name).isAbsolute = false := by
  rw [FilePath.isAbsolute, beq_eq_false_iff_ne]
  intro hhead
  exact h.1 (List.mem_of_mem_head? hhead)

lemma follow_eq (h : IsName name) (place : Location) :
    follow place name.toList = place ++ [name] := by
  rw [follow, h.2]

lemma placeFrom_join (h : IsName name) (path : FilePath) (current : Location) :
    (path.join name).placeFrom current = path.placeFrom current ++ [name] := by
  rw [path.placeFrom_join h.isAbsolute_eq, h.pieces_eq, List.foldl_cons, List.foldl_nil,
    h.follow_eq]

end IsName

lemma FilePath.placeFrom_joinAll {names : List String} (h : ∀ name ∈ names, IsName name)
    (path : FilePath) (current : Location) :
    (path.joinAll names).placeFrom current = path.placeFrom current ++ names := by
  induction names generalizing path with
  | nil => exact (List.append_nil _).symm
  | cons name rest ih =>
    rw [List.forall_mem_cons] at h
    have hrest := ih h.2 (path.join name)
    rw [h.1.placeFrom_join, List.append_assoc] at hrest
    exact hrest

/-! ## Looking up -/

/-- A text that is looked up at all. -/
def FilePath.Acceptable (path : FilePath) : Prop :=
  path.text ≠ "" ∧ Char.ofNat 0 ∉ path.text.toList ∧
    path.text.utf8ByteSize ≤ FileTree.maxPathSize

namespace FileTree

variable {tree later : FileTree} {path : FilePath} {place next : Location} {piece : List Char}

/-- The look-up of a path, whatever its text is made of. -/
def resolve (tree : FileTree) (path : FilePath) : Except Fault Location :=
  path.pieces.foldlM tree.step (path.start tree.current)

lemma locate_eq_ok_iff :
    tree.locate path = .ok place ↔ path.Acceptable ∧ tree.resolve path = .ok place := by
  by_cases hempty : path.text = ""
  · rw [locate, if_pos (beq_iff_eq.mpr hempty)]
    exact ⟨by rintro ⟨⟩, fun h => absurd hempty h.1.1⟩
  rw [locate, if_neg (by rwa [beq_iff_eq])]
  by_cases hzero : Char.ofNat 0 ∈ path.text.toList
  · rw [if_pos (List.contains_iff_mem.mpr hzero)]
    exact ⟨by rintro ⟨⟩, fun h => absurd hzero h.1.2.1⟩
  rw [if_neg (by rwa [List.contains_iff_mem])]
  by_cases hlong : maxPathSize < path.text.utf8ByteSize
  · rw [if_pos hlong]
    exact ⟨by rintro ⟨⟩, fun h => absurd hlong (Nat.not_lt.mpr h.1.2.2)⟩
  rw [if_neg hlong]
  exact ⟨fun h => ⟨⟨hempty, hzero, Nat.not_lt.mp hlong⟩, h⟩, fun h => h.2⟩

/-- A step starts at a folder and ends where the piece leads. -/
lemma step_eq_ok (h : tree.step place piece = .ok next) :
    tree.at? place = some .folder ∧ next = follow place piece := by
  unfold step at h
  split at h
  · cases h
  · cases h
  · rename_i hfolder
    refine ⟨hfolder, ?_⟩
    unfold follow
    cases hpiece : FilePath.component? piece with
    | none =>
      rw [hpiece] at h
      exact (Except.ok.inj h).symm
    | some component =>
      rw [hpiece] at h
      cases component with
      | name name =>
        dsimp only at h
        split_ifs at h
        exact (Except.ok.inj h).symm
      | _ => exact (Except.ok.inj h).symm

lemma step_of_folder (h : tree.at? place = some .folder) (h' : later.at? place = some .folder) :
    later.step place piece = tree.step place piece := by
  rw [step, step, h, h']

/-- An empty piece before a step changes nothing. -/
lemma step_nil_bind {β : Type} (tree : FileTree) (place : Location) (piece : List Char)
    (next : Location → Except Fault β) :
    (tree.step place [] >>= fun stay => tree.step stay piece >>= next) =
      tree.step place piece >>= next := by
  cases hplace : tree.at? place with
  | none =>
    simp only [step, hplace]
    rfl
  | some entry =>
    cases entry with
    | file content executable =>
      simp only [step, hplace]
      rfl
    | folder =>
      have hstay : tree.step place [] = .ok place := by
        rw [step, hplace]
        rfl
      rw [hstay]
      rfl

/-- The look-up of a joined path goes on where that of its first part ends. -/
lemma resolve_join (tree : FileTree) (path : FilePath) {below : String}
    (hbelow : (FilePath.mk below).isAbsolute = false) :
    tree.resolve (path.join below) =
      tree.resolve path >>= (FilePath.mk below).pieces.foldlM tree.step := by
  obtain ⟨front, hpieces, hpath, hstart⟩ := path.exists_front_join hbelow
  rw [resolve, resolve, hpieces, hstart, List.foldlM_append]
  rcases hpath with hpath | hpath
  · rw [hpath]
  · rw [hpath, List.foldlM_append, bind_assoc]
    refine bind_congr fun place => ?_
    have hne : (FilePath.mk below).pieces ≠ [] := by
      rw [FilePath.pieces, Text.pieces_eq_splitOnP]
      exact List.splitOnP_ne_nil _ _
    obtain ⟨piece, rest, hrest⟩ := List.exists_cons_of_ne_nil hne
    rw [hrest]
    simp only [List.foldlM_cons, List.foldlM_nil, bind_pure]
    exact (step_nil_bind tree place piece _).symm

lemma resolve_join_name (tree : FileTree) (path : FilePath) {name : String} (h : IsName name) :
    tree.resolve (path.join name) =
      tree.resolve path >>= fun place => tree.step place name.toList := by
  rw [tree.resolve_join path h.isAbsolute_eq, h.pieces_eq]
  simp only [List.foldlM_cons, List.foldlM_nil, bind_pure]

/-! ## Folders that stay -/

/-- What is a folder stays one. -/
structure FoldersStay (tree later : FileTree) : Prop where
  current : later.current = tree.current
  folder : ∀ place, tree.at? place = some .folder → later.at? place = some .folder

lemma foldlM_step_eq_ok {pieces : List (List Char)}
    (h : pieces.foldlM tree.step place = .ok next) : next = pieces.foldl follow place := by
  induction pieces generalizing place with
  | nil => exact (Except.ok.inj h).symm
  | cons piece rest ih =>
    rw [List.foldlM_cons] at h
    cases hstep : tree.step place piece with
    | error fault =>
      rw [hstep] at h
      cases h
    | ok middle =>
      rw [hstep] at h
      rw [List.foldl_cons, ← (step_eq_ok hstep).2]
      exact ih h

lemma foldlM_step_of_foldersStay (hstay : FoldersStay tree later) {pieces : List (List Char)}
    (h : pieces.foldlM tree.step place = .ok next) :
    pieces.foldlM later.step place = .ok next := by
  induction pieces generalizing place with
  | nil => exact h
  | cons piece rest ih =>
    rw [List.foldlM_cons] at h ⊢
    cases hstep : tree.step place piece with
    | error fault =>
      rw [hstep] at h
      cases h
    | ok middle =>
      have hfolder := (step_eq_ok hstep).1
      rw [step_of_folder hfolder (hstay.folder place hfolder), hstep]
      rw [hstep] at h
      exact ih h

lemma resolve_eq_ok (h : tree.resolve path = .ok place) : place = path.placeFrom tree.current :=
  foldlM_step_eq_ok h

/-- What is located lies where the path leads. -/
lemma locate_eq_ok (h : tree.locate path = .ok place) : place = path.placeFrom tree.current :=
  resolve_eq_ok (locate_eq_ok_iff.mp h).2

lemma resolve_of_foldersStay (hstay : FoldersStay tree later) (h : tree.resolve path = .ok place) :
    later.resolve path = .ok place := by
  rw [resolve, hstay.current]
  exact foldlM_step_of_foldersStay hstay h

lemma locate_of_foldersStay (hstay : FoldersStay tree later) (h : tree.locate path = .ok place) :
    later.locate path = .ok place := by
  rw [locate_eq_ok_iff] at h ⊢
  exact ⟨h.1, resolve_of_foldersStay hstay h.2⟩

lemma find_eq_ok_iff {entry : Entry} :
    tree.find path = .ok entry ↔
      ∃ place, tree.locate path = .ok place ∧ tree.at? place = some entry := by
  rw [find, bind_eq_ok]
  refine exists_congr fun place => and_congr_right fun _ => ?_
  cases tree.at? place with
  | none => simp
  | some other => simp

lemma isFile_iff :
    tree.isFile path = true ↔
      ∃ content executable, tree.find path = .ok (.file content executable) := by
  unfold isFile
  split
  · rename_i content executable hfind
    simp [hfind]
  · rename_i hnot
    simpa using hnot

lemma read_eq_ok_iff {data : ByteArray} :
    tree.read path = .ok data ↔
      ∃ content executable, tree.find path = .ok (.file content executable) ∧
        content.data = data := by
  rw [read, bind_eq_ok]
  constructor
  · rintro ⟨entry, hfind, hdata⟩
    cases entry with
    | folder => cases hdata
    | file content executable => exact ⟨content, executable, hfind, Except.ok.inj hdata⟩
  · rintro ⟨content, executable, hfind, rfl⟩
    exact ⟨_, hfind, rfl⟩

end FileTree

end Cartridge.Files
