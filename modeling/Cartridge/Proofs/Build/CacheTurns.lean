import Cartridge.Build.Cache
import Cartridge.Proofs.Digest.Encoding
import Cartridge.Proofs.Files.Changes

/-!
# Turns of the object cache

The cache handles one job after the other.  What a turn of a fetch or of a store may do to the tree
is said here once (`ObjectCache.fetchOne_cases`, `ObjectCache.storeOne_cases`), with the places of
the files of an entry: the object, the record and the unfinished object of a key lie in one folder
of the cache, and no two of them, of one key or of two, share a place.
-/

namespace Cartridge.Build

open Cartridge.Digest (Key)
open Cartridge.Files (FileTree FilePath Fault Location Content IsName)
open Cartridge.Files.FileTree (AddsFolders PutsFile MovesFile)

/-! ## Runs of actions -/

namespace Action

variable {α β : Type} {world after : World}

@[simp] lemma run_tree_bind (next : FileTree → Action β) (world : World) :
    (Action.tree >>= next).run world = (next world.tree).run world :=
  rfl

/-- A sequence ends where its first part fails, or where the rest does. -/
lemma run_bind_cases {action : Action α} {next : α → Action β} {result : Except Error β}
    (h : (action >>= next).run world = (result, after)) :
    (∃ a middle, action.run world = (.ok a, middle) ∧ (next a).run middle = (result, after)) ∨
      ∃ error, action.run world = (.error error, after) ∧ result = .error error := by
  change (ExceptT.bindCont next (action.run world).1) (action.run world).2 = _ at h
  rcases hrun : action.run world with ⟨outcome, middle⟩
  rw [hrun] at h
  cases outcome with
  | ok a => exact .inl ⟨a, middle, rfl, h⟩
  | error error =>
    cases h
    exact .inr ⟨error, rfl, rfl⟩

lemma run_change_cases {describe : Fault → Error}
    {step : FileTree → Except Fault (α × FileTree)} {result : Except Error α}
    (h : (change describe step).run world = (result, after)) :
    (∃ a, step world.tree = .ok (a, after.tree) ∧ result = .ok a) ∨
      ∃ fault, step world.tree = .error fault ∧ result = .error (describe fault) ∧
        after = world := by
  cases hstep : step world.tree with
  | ok changed =>
    simp only [change, run, ExceptT.run, ExceptT.mk, hstep] at h
    cases h
    exact .inl ⟨changed.1, rfl, rfl⟩
  | error fault =>
    simp only [change, run, ExceptT.run, ExceptT.mk, hstep] at h
    cases h
    exact .inr ⟨fault, rfl, rfl, rfl⟩

lemma run_update_cases {describe : Fault → Error} {step : FileTree → Except Fault FileTree}
    {result : Except Error Unit} (h : (update describe step).run world = (result, after)) :
    (step world.tree = .ok after.tree ∧ result = .ok ()) ∨
      ∃ fault, step world.tree = .error fault ∧ result = .error (describe fault) ∧
        after = world := by
  obtain ⟨_, hok, hresult⟩ | ⟨fault, herror, hresult, hafter⟩ := run_change_cases h
  · cases hstep : step world.tree with
    | ok tree =>
      rw [hstep] at hok
      cases hok
      exact .inl ⟨rfl, hresult⟩
    | error fault =>
      rw [hstep] at hok
      cases hok
  · cases hstep : step world.tree with
    | ok tree =>
      rw [hstep] at herror
      cases herror
    | error fault =>
      rw [hstep] at herror
      cases herror
      exact .inr ⟨fault, rfl, hresult, hafter⟩

lemma addsFolders_createParent {describe : FilePath → Fault → Error} {path : FilePath}
    {result : Except Error Unit} (h : (createParent describe path).run world = (result, after)) :
    AddsFolders world.tree after.tree := by
  have hafter : after = ((createParent describe path).run world).2 := by rw [h]
  rw [hafter]
  unfold createParent
  cases path.parent? with
  | none => exact .refl [] _
  | some parent => exact FileTree.addsFolders_createFolders _ _

end Action

/-! ## Names of entries -/

/-- The text of a digest. -/
def IsHex (key : Key) : Prop :=
  key.text ≠ "" ∧ ∀ c ∈ key.text.toList, (Text.hexDigit? c).isSome = true

instance (key : Key) : Decidable (IsHex key) :=
  decidable_of_iff
    (key.text ≠ "" ∧ key.text.toList.all (fun c => (Text.hexDigit? c).isSome) = true)
    (by rw [IsHex, List.all_eq_true])

/-- Every key that is the digest of something can name an entry. -/
lemma isHex_ofCalls (domain : String) (calls : List Digest.Call) :
    IsHex (.ofCalls domain calls) := by
  have hall : ∀ i : Fin 16, (Text.hexDigit? (Text.hexChar false i)).isSome = true := by decide
  refine ⟨?_, fun c hc => ?_⟩
  · rw [Ne, ← String.toList_eq_nil_iff]
    simp [Key.ofCalls, Text.hexOf, Text.hexByte, Digest.Sha256.digest, Digest.Sha256.wordBytes]
  · rw [Key.ofCalls, Text.hexOf, String.toList_ofList, List.mem_flatMap] at hc
    obtain ⟨b, -, hc⟩ := hc
    have hb := UInt8.toNat_lt b
    rw [Text.hexByte, List.mem_cons, List.mem_singleton] at hc
    rcases hc with rfl | rfl
    · exact hall ⟨b.toNat / 16, by omega⟩
    · exact hall ⟨b.toNat % 16, by omega⟩

/-- A text that starts with a digit and has no slash stands for itself in a path. -/
lemma isName_of_head {name : String} {c : Char} {rest : List Char} (hname : name.toList = c :: rest)
    (hhead : c ≠ '.') (hslash : '/' ∉ name.toList) : IsName name := by
  refine ⟨hslash, ?_⟩
  rw [hname]
  unfold FilePath.component?
  split
  · cases ‹_ = []›
  · exact absurd (List.cons.inj ‹_›).1 hhead
  · exact absurd (List.cons.inj ‹_›).1 hhead
  · rw [← hname, String.ofList_toList]

namespace IsHex

variable {key : Key}

lemma not_mem (h : IsHex key) {c : Char} (hc : (Text.hexDigit? c).isSome = false) :
    c ∉ key.text.toList := by
  intro hmem
  have hsome := h.2 c hmem
  rw [hc] at hsome
  cases hsome

lemma exists_head (h : IsHex key) : ∃ c rest, key.text.toList = c :: rest ∧ c ≠ '.' := by
  have hne : key.text.toList ≠ [] := fun hnil => h.1 (String.toList_eq_nil_iff.mp hnil)
  obtain ⟨c, rest, hchars⟩ := List.exists_cons_of_ne_nil hne
  refine ⟨c, rest, hchars, ?_⟩
  rintro rfl
  exact h.not_mem (c := '.') (by decide) (hchars ▸ List.mem_cons_self)

lemma isName_shard (h : IsHex key) : IsName key.shard := by
  obtain ⟨c, rest, hchars, hhead⟩ := h.exists_head
  have hshard : key.shard.toList = c :: rest.take 1 := by
    rw [Key.shard, String.toList_ofList, hchars, List.take_succ_cons]
  refine isName_of_head hshard hhead fun hslash => h.not_mem (c := '/') (by decide) ?_
  rw [Key.shard, String.toList_ofList] at hslash
  exact List.mem_of_mem_take hslash

lemma isName_append (h : IsHex key) {ending : String} (hending : '/' ∉ ending.toList) :
    IsName (key.text ++ ending) := by
  obtain ⟨c, rest, hchars, hhead⟩ := h.exists_head
  have hname : (key.text ++ ending).toList = c :: (rest ++ ending.toList) := by
    rw [String.toList_append, hchars, List.cons_append]
  refine isName_of_head hname hhead ?_
  rw [String.toList_append, List.mem_append, not_or]
  exact ⟨h.not_mem (by decide), hending⟩

end IsHex

namespace ObjectCache

variable {cache : ObjectCache} {root : FilePath} {job : CompileJob} {key other : Key}
  {current : Location}

/-- The place of a file of an entry. -/
def entryPlace (folder : FilePath) (current : Location) (key : Key) (ending : String) : Location :=
  folder.placeFrom current ++ [key.shard, key.text ++ ending]

/-- The ending of the names of unfinished objects. -/
def partialEnding (cache : ObjectCache) : String :=
  ".o." ++ toString cache.writer ++ ".part"

lemma prefix_entryPlace (folder : FilePath) (current : Location) (key : Key) (ending : String) :
    folder.placeFrom current <+: entryPlace folder current key ending :=
  List.prefix_append _ _

lemma placeFrom_entry (h : IsHex key) {ending : String} (hending : '/' ∉ ending.toList) :
    ((cache.folder key).join (key.text ++ ending)).placeFrom current =
      entryPlace cache.root current key ending := by
  rw [(h.isName_append hending).placeFrom_join, folder, h.isName_shard.placeFrom_join,
    List.append_assoc]
  rfl

lemma placeFrom_objectFile (h : IsHex key) :
    (cache.objectFile key).placeFrom current = entryPlace cache.root current key ".o" :=
  placeFrom_entry h (by decide)

lemma placeFrom_recordFile (h : IsHex key) :
    (cache.recordFile key).placeFrom current = entryPlace cache.root current key ".json" :=
  placeFrom_entry h (by decide)

lemma placeFrom_partialFile (h : IsHex key) :
    (cache.partialFile key).placeFrom current =
      entryPlace cache.root current key cache.partialEnding := by
  have hdigits : '/' ∉ (toString cache.writer).toList := by
    intro hmem
    have htext : toString cache.writer = String.ofList (Nat.toDigits 10 cache.writer) := rfl
    rw [htext, String.toList_ofList] at hmem
    have hdigit : '/'.isDigit = true := Nat.isDigit_of_mem_toDigits (by decide) (by decide) hmem
    exact absurd hdigit (by decide)
  have hending : '/' ∉ cache.partialEnding.toList := by
    simp only [partialEnding, String.toList_append, List.mem_append, not_or]
    exact ⟨⟨by decide, hdigits⟩, by decide⟩
  rw [← placeFrom_entry h hending, partialFile, partialEnding, String.append_assoc,
    String.append_assoc, String.append_assoc]

/-- Files of two keys lie in two places. -/
lemma entryPlace_inj {ending : String}
    (h : entryPlace cache.root current key ending = entryPlace cache.root current other ending) :
    key = other := by
  have hnames := List.append_cancel_left h
  simp only [List.cons.injEq, and_true] at hnames
  have htext := congrArg String.toList hnames.2
  rw [String.toList_append, String.toList_append] at htext
  exact Key.text_injective (String.toList_injective (List.append_cancel_right htext))

/-- Files with different last characters lie in two places. -/
lemma entryPlace_ne {ending ending' : String} {c d : Char}
    (hc : ending.toList.getLast? = some c) (hd : ending'.toList.getLast? = some d) (hne : c ≠ d) :
    entryPlace cache.root current key ending ≠ entryPlace cache.root current other ending' := by
  intro h
  have hnames := List.append_cancel_left h
  simp only [List.cons.injEq, and_true] at hnames
  have hlast := congrArg (fun name => name.toList.getLast?) hnames.2
  simp only [String.toList_append, List.getLast?_append, hc, hd, Option.some_or,
    Option.some.injEq] at hlast
  exact hne hlast

/-! ## Turns -/

/-- Where a job's object lies. -/
def objectPlace (root : FilePath) (current : Location) (job : CompileJob) : Location :=
  (root.join job.object.text).placeFrom current

/-- An entry is accepted when its record can be read and has the size of its object. -/
lemma lookup?_eq_some_iff {tree : FileTree} {object : FilePath} :
    cache.lookup? tree key = some object ↔
      object = cache.objectFile key ∧ ∃ data record content executable,
        tree.read (cache.recordFile key) = .ok data ∧ CacheRecord.ofData? data = some record ∧
        tree.find (cache.objectFile key) = .ok (.file content executable) ∧
        content.data.size = record.size := by
  constructor
  · intro h
    unfold lookup? at h
    simp only [Option.bind_eq_bind, Option.bind_eq_some_iff] at h
    obtain ⟨data, hdata, record, hrecord, h⟩ := h
    have hread : tree.read (cache.recordFile key) = .ok data := by
      cases hresult : tree.read (cache.recordFile key) with
      | ok read =>
        rw [hresult] at hdata
        cases hdata
        rfl
      | error fault =>
        rw [hresult] at hdata
        cases hdata
    split at h
    · rename_i content executable hfind
      split_ifs at h with hsize
      cases h
      exact ⟨rfl, data, record, content, executable, hread, hrecord, hfind, hsize⟩
    · cases h
  · rintro ⟨rfl, data, record, content, executable, hread, hrecord, hfind, hsize⟩
    unfold lookup?
    simp only [hread, Except.toOption, Option.bind_eq_bind, Option.bind_some, hrecord, hfind]
    exact if_pos hsize

/-- A turn of a fetch changes nothing, or copies the object of the key to where no object is. -/
lemma fetchOne_cases {world after : World} {result : Except Error CacheStats}
    (h : (cache.fetchOne root job key).run world = (result, after)) :
    (after = world ∧ ∃ stats : CacheStats, result = .ok stats ∧ stats.hits = 0) ∨
      job.isBuilt world.tree root = false ∧ (cache.lookup? world.tree key).isSome ∧
        ((∃ error, result = .error error ∧ AddsFolders world.tree after.tree) ∨
          ∃ middle size, result = .ok { hits := 1 } ∧ AddsFolders world.tree middle ∧
            middle.copy (cache.objectFile key) (root.join job.object.text) =
              .ok (size, after.tree)) := by
  unfold fetchOne at h
  rw [Action.run_tree_bind] at h
  split_ifs at h with hbuilt
  · cases h
    exact .inl ⟨rfl, _, rfl, rfl⟩
  · cases hlookup : cache.lookup? world.tree key with
    | none =>
      rw [hlookup] at h
      cases h
      exact .inl ⟨rfl, _, rfl, rfl⟩
    | some cached =>
      rw [hlookup] at h
      obtain rfl := (lookup?_eq_some_iff.mp hlookup).1
      refine .inr ⟨by simpa using hbuilt, rfl, ?_⟩
      obtain ⟨_, middle, hcreate, h⟩ | ⟨error, hcreate, rfl⟩ := Action.run_bind_cases h
      · have hfolders := Action.addsFolders_createParent hcreate
        obtain ⟨size, copied, hcopy, h⟩ | ⟨error, hcopy, rfl⟩ := Action.run_bind_cases h
        · cases h
          obtain ⟨_, hcopy, hsize⟩ | ⟨_, _, hsize, _⟩ := Action.run_change_cases hcopy
          · cases hsize
            exact .inr ⟨_, _, rfl, hfolders, hcopy⟩
          · cases hsize
        · obtain ⟨_, _, hresult⟩ | ⟨_, _, _, rfl⟩ := Action.run_change_cases hcopy
          · cases hresult
          · exact .inl ⟨error, rfl, hfolders⟩
      · exact .inl ⟨error, rfl, Action.addsFolders_createParent hcreate⟩

/-- The object is copied beside its place and renamed. -/
def Places (cache : ObjectCache) (root : FilePath) (job : CompileJob) (key : Key)
    (tree later : FileTree) : Prop :=
  ∃ middle copied size, AddsFolders tree middle ∧
    middle.copy (root.join job.object.text) (cache.partialFile key) = .ok (size, copied) ∧
    copied.rename (cache.partialFile key) (cache.objectFile key) = .ok later

/-- What a turn of a store that adds an entry may leave.  It stops after any of its steps, also half
way through one that writes a file; renaming is never done half way. -/
inductive Leaves (cache : ObjectCache) (root : FilePath) (job : CompileJob) (key : Key)
    (tree : FileTree) : FileTree → Prop
  /-- Some of the folders are there. -/
  | folders {later : FileTree} (hfolders : AddsFolders tree later) :
      Leaves cache root job key tree later
  /-- The unfinished object holds anything. -/
  | unfinished {middle later : FileTree} {content : Content} (hfolders : AddsFolders tree middle)
      (hput : PutsFile middle ((cache.partialFile key).placeFrom middle.current) content later) :
      Leaves cache root job key tree later
  /-- The unfinished object is complete. -/
  | copied {middle later : FileTree} {size : Nat} (hfolders : AddsFolders tree middle)
      (hcopy : middle.copy (root.join job.object.text) (cache.partialFile key) =
        .ok (size, later)) :
      Leaves cache root job key tree later
  /-- The object is in its place, beside whatever record was there. -/
  | object {later : FileTree} (hplaces : Places cache root job key tree later) :
      Leaves cache root job key tree later
  /-- The record holds anything. -/
  | record {renamed later : FileTree} {content : Content}
      (hplaces : Places cache root job key tree renamed)
      (hput : PutsFile renamed ((cache.recordFile key).placeFrom renamed.current) content later) :
      Leaves cache root job key tree later

/-- A turn of a store changes nothing, or it finds an object without an entry and leaves what its
steps may leave; when it reports success, the object and a record are in place. -/
lemma storeOne_cases {world after : World} {result : Except Error CacheStats}
    (h : (cache.storeOne root job key).run world = (result, after)) :
    (after = world ∧ result = .ok {}) ∨
      world.tree.isFile (root.join job.object.text) = true ∧
        cache.lookup? world.tree key = none ∧
        ((∃ error, result = .error error ∧ Leaves cache root job key world.tree after.tree) ∨
          result = .ok { stored := 1 } ∧ ∃ renamed text,
            Places cache root job key world.tree renamed ∧
            renamed.writeText (cache.recordFile key) text = .ok after.tree) := by
  unfold storeOne at h
  rw [Action.run_tree_bind] at h
  dsimp only at h
  split_ifs at h with hidle
  · cases h
    exact .inl ⟨rfl, rfl⟩
  simp only [Bool.or_eq_true, Bool.not_eq_true', not_or, Bool.not_eq_false,
    Option.not_isSome_iff_eq_none] at hidle
  refine .inr ⟨hidle.1, hidle.2, ?_⟩
  -- one step after the other: where it fails, the tree is as the step before left it
  obtain ⟨_, middle, hcreate, h⟩ | ⟨error, hcreate, rfl⟩ := Action.run_bind_cases h
  swap
  · exact .inl ⟨error, rfl, .folders (Action.addsFolders_createParent hcreate)⟩
  have hfolders := Action.addsFolders_createParent hcreate
  obtain ⟨size, copied, hcopy, h⟩ | ⟨error, hcopy, rfl⟩ := Action.run_bind_cases h
  swap
  · obtain ⟨_, _, hresult⟩ | ⟨_, _, _, rfl⟩ := Action.run_change_cases hcopy
    · cases hresult
    · exact .inl ⟨error, rfl, .folders hfolders⟩
  obtain ⟨_, hcopy, hsize⟩ | ⟨_, _, hsize, _⟩ := Action.run_change_cases hcopy
  swap
  · cases hsize
  obtain ⟨_, renamed, hrename, h⟩ | ⟨error, hrename, rfl⟩ := Action.run_bind_cases h
  swap
  · obtain ⟨_, hresult⟩ | ⟨_, _, _, rfl⟩ := Action.run_update_cases hrename
    · cases hresult
    · exact .inl ⟨error, rfl, .copied hfolders hcopy⟩
  obtain ⟨hrename, _⟩ | ⟨_, _, hresult, _⟩ := Action.run_update_cases hrename
  swap
  · cases hresult
  have hplaces : Places cache root job key world.tree renamed.tree :=
    ⟨_, _, _, hfolders, hcopy, hrename⟩
  obtain ⟨_, written, hwrite, h⟩ | ⟨error, hwrite, rfl⟩ := Action.run_bind_cases h
  swap
  · obtain ⟨_, hresult⟩ | ⟨_, _, _, rfl⟩ := Action.run_update_cases hwrite
    · cases hresult
    · exact .inl ⟨error, rfl, .object hplaces⟩
  obtain ⟨hwrite, _⟩ | ⟨_, _, hresult, _⟩ := Action.run_update_cases hwrite
  · cases h
    exact .inr ⟨rfl, _, _, hplaces, hwrite⟩
  · cases hresult

/-! ## What a turn changes -/

/-- The job's object lies outside of the cache. -/
def Apart (folder root : FilePath) (current : Location) (job : CompileJob) : Prop :=
  ¬folder.placeFrom current <+: objectPlace root current job

/-- The places of all files of an entry. -/
def entryPlaces (cache : ObjectCache) (current : Location) (key : Key) : List Location :=
  [".o", ".json", cache.partialEnding].map (entryPlace cache.root current key)

lemma Apart.ne_entryPlace (h : Apart cache.root root current job) (key : Key) (ending : String) :
    objectPlace root current job ≠ entryPlace cache.root current key ending := by
  intro heq
  exact h (heq ▸ prefix_entryPlace _ _ _ _)

lemma getLast?_partialEnding (cache : ObjectCache) :
    cache.partialEnding.toList.getLast? = some 't' := by
  rw [partialEnding, String.toList_append, List.getLast?_append]
  rfl

lemma object_not_mem_entryPlaces (hne : other ≠ key) :
    entryPlace cache.root current other ".o" ∉ cache.entryPlaces current key := by
  simp only [entryPlaces, List.map_cons, List.map_nil, List.mem_cons, List.not_mem_nil, or_false,
    not_or]
  exact ⟨fun h => hne (entryPlace_inj h), entryPlace_ne rfl rfl (by decide),
    entryPlace_ne rfl (getLast?_partialEnding cache) (by decide)⟩

lemma record_not_mem_entryPlaces (hne : other ≠ key) :
    entryPlace cache.root current other ".json" ∉ cache.entryPlaces current key := by
  simp only [entryPlaces, List.map_cons, List.map_nil, List.mem_cons, List.not_mem_nil, or_false,
    not_or]
  exact ⟨entryPlace_ne rfl rfl (by decide), fun h => hne (entryPlace_inj h),
    entryPlace_ne rfl (getLast?_partialEnding cache) (by decide)⟩

/-- A change inside the entry of a key that gives its object nothing but `content`. -/
structure Enters (cache : ObjectCache) (key : Key) (content : Content) (tree later : FileTree) :
    Prop extends FileTree.ChangesOnly (cache.entryPlaces tree.current key) tree later where
  object : ∀ found executable,
    later.at? (entryPlace cache.root tree.current key ".o") = some (.file found executable) →
      tree.at? (entryPlace cache.root tree.current key ".o") = some (.file found executable) ∨
        found = content

section Effects

variable {tree middle copied later : FileTree} {content : Content} {executable : Bool}
  (hkey : IsHex key) (hapart : Apart cache.root root tree.current job)

include hkey hapart

/-- The unfinished object holds the whole object of the job. -/
lemma putsFile_partial {size : Nat}
    (hfind : tree.find (root.join job.object.text) = .ok (.file content executable))
    (hfolders : AddsFolders tree middle)
    (hcopy : middle.copy (root.join job.object.text) (cache.partialFile key) = .ok (size, copied)) :
    PutsFile middle (entryPlace cache.root tree.current key cache.partialEnding) content
      copied := by
  have hne : (root.join job.object.text).placeFrom middle.current ≠
      (cache.partialFile key).placeFrom middle.current := by
    rw [hfolders.stay.current, placeFrom_partialFile hkey]
    exact hapart.ne_entryPlace key _
  obtain ⟨found, _, hfound, -, -, hput⟩ := FileTree.putsFile_copy hcopy hne
  rw [hfolders.find_eq hfind (List.not_mem_nil)] at hfound
  cases hfound
  rwa [placeFrom_partialFile hkey, hfolders.stay.current] at hput

/-- The object in its place is the whole object of the job. -/
lemma Places.enters (h : Places cache root job key tree later) (hrooted : tree.Rooted)
    (hfind : tree.find (root.join job.object.text) = .ok (.file content executable)) :
    Enters cache key content tree later ∧ ∃ executable,
      later.find (cache.objectFile key) = .ok (.file content executable) := by
  obtain ⟨middle, copied, size, hfolders, hcopy, hrename⟩ := h
  have hput := putsFile_partial hkey hapart hfind hfolders hcopy
  have hcurrent : copied.current = tree.current :=
    hput.stay.current.trans hfolders.stay.current
  obtain ⟨copiedExecutable, hholds⟩ := hput.holds
  have hmoves : MovesFile copied (entryPlace cache.root tree.current key cache.partialEnding)
      (entryPlace cache.root tree.current key ".o") later := by
    rw [← hcurrent, ← placeFrom_partialFile hkey] at hholds
    have hmoves := FileTree.movesFile_rename (hput.rooted (hfolders.rooted hrooted)) hholds hrename
    rwa [placeFrom_partialFile hkey, placeFrom_objectFile hkey, hcurrent] at hmoves
  have hobject : later.at? (entryPlace cache.root tree.current key ".o") =
      some (.file content copiedExecutable) := by
    rw [hmoves.moved, hholds]
  have hsub : [entryPlace cache.root tree.current key cache.partialEnding,
      entryPlace cache.root tree.current key ".o"] ⊆ cache.entryPlaces tree.current key := by
    simp [entryPlaces]
  have hlocate := FileTree.locate_of_foldersStay hmoves.stay (FileTree.locate_of_rename hrename)
  rw [placeFrom_objectFile hkey, hcurrent] at hlocate
  refine ⟨⟨?_, fun found _ hfound => ?_⟩, copiedExecutable,
    FileTree.find_eq_ok_iff.mpr ⟨_, hlocate, hobject⟩⟩
  · refine (hfolders.mono (List.nil_subset _)).trans ((hput.mono ?_).trans (hmoves.mono hsub))
    exact fun place hplace => hsub (List.mem_cons.mpr (.inl (List.mem_singleton.mp hplace)))
  · rw [hobject] at hfound
    cases hfound
    exact .inr rfl

/-- A turn of a store stays inside the entry of its key, and the object there is complete whenever
the turn stops. -/
lemma Leaves.enters (h : Leaves cache root job key tree later) (hrooted : tree.Rooted)
    (hfind : tree.find (root.join job.object.text) = .ok (.file content executable)) :
    Enters cache key content tree later := by
  have hpartial : [entryPlace cache.root tree.current key cache.partialEnding] ⊆
      cache.entryPlaces tree.current key := by
    simp [entryPlaces]
  have hrecord : [entryPlace cache.root tree.current key ".json"] ⊆
      cache.entryPlaces tree.current key := by
    simp [entryPlaces]
  have hobject : entryPlace cache.root tree.current key ".o" ∉
      [entryPlace cache.root tree.current key cache.partialEnding] := by
    rw [List.mem_singleton]
    exact entryPlace_ne rfl (getLast?_partialEnding cache) (by decide)
  have hobject' : entryPlace cache.root tree.current key ".o" ∉
      [entryPlace cache.root tree.current key ".json"] := by
    rw [List.mem_singleton]
    exact entryPlace_ne rfl rfl (by decide)
  cases h with
  | folders hfolders =>
    exact ⟨hfolders.mono (List.nil_subset _), fun _ _ hfound =>
      .inl ((hfolders.at?_file_iff List.not_mem_nil).mp hfound)⟩
  | unfinished hfolders hput =>
    rw [placeFrom_partialFile hkey, hfolders.stay.current] at hput
    have hall := (hfolders.mono (List.nil_subset _)).trans hput.toChangesOnly
    exact ⟨hall.mono hpartial, fun _ _ hfound => .inl ((hall.at?_file_iff hobject).mp hfound)⟩
  | copied hfolders hcopy =>
    have hput := putsFile_partial hkey hapart hfind hfolders hcopy
    have hall := (hfolders.mono (List.nil_subset _)).trans hput.toChangesOnly
    exact ⟨hall.mono hpartial, fun _ _ hfound => .inl ((hall.at?_file_iff hobject).mp hfound)⟩
  | object hplaces => exact (hplaces.enters hkey hapart hrooted hfind).1
  | record hplaces hput =>
    have henters := (hplaces.enters hkey hapart hrooted hfind).1
    rw [placeFrom_recordFile hkey, henters.stay.current] at hput
    exact ⟨henters.trans (hput.mono hrecord), fun found executable hfound =>
      henters.object found executable ((hput.at?_file_iff hobject').mp hfound)⟩

/-- A turn of a store that reports success puts the object of the job under the key. -/
lemma read_objectFile_of_stored {world after : World} (htree : world.tree = tree)
    (hrooted : tree.Rooted)
    (h : (cache.storeOne root job key).run world = (.ok { stored := 1 }, after)) :
    ∃ data, tree.read (root.join job.object.text) = .ok data ∧
      after.tree.read (cache.objectFile key) = .ok data := by
  subst htree
  obtain ⟨-, hidle⟩ | ⟨hfile, -, ⟨_, herror, -⟩ | ⟨-, renamed, text, hplaces, hwrite⟩⟩ :=
    storeOne_cases h
  · cases hidle
  · cases herror
  obtain ⟨content, executable, hfind⟩ := FileTree.isFile_iff.mp hfile
  obtain ⟨henters, permission, hobject⟩ := hplaces.enters hkey hapart hrooted hfind
  refine ⟨content.data, FileTree.read_eq_ok_iff.mpr ⟨content, executable, hfind, rfl⟩, ?_⟩
  have hrecord := FileTree.putsFile_write hwrite
  have hne : (cache.objectFile key).placeFrom renamed.current ∉
      [(cache.recordFile key).placeFrom renamed.current] := by
    rw [placeFrom_objectFile hkey, placeFrom_recordFile hkey, List.mem_singleton]
    exact entryPlace_ne rfl rfl (by decide)
  exact FileTree.read_eq_ok_iff.mpr ⟨content, permission, hrecord.find_eq hobject hne, rfl⟩

/-- A turn of a fetch changes nothing but an object that is not built, and that gets the whole
object of the key. -/
lemma fetchOne_changes {world after : World} {result : Except Error CacheStats}
    (htree : world.tree = tree) (h : (cache.fetchOne root job key).run world = (result, after)) :
    AddsFolders tree after.tree ∧ (∀ stats, result = .ok stats → stats.hits = 0) ∨
      job.isBuilt tree root = false ∧ ∃ content executable,
        tree.at? (entryPlace cache.root tree.current key ".o") = some (.file content executable) ∧
        after.tree.read (root.join job.object.text) = .ok content.data ∧
        PutsFile tree (objectPlace root tree.current job) content after.tree := by
  subst htree
  obtain ⟨rfl, hstats⟩ | ⟨hbuilt, hlookup, ⟨error, rfl, hfolders⟩ | ⟨middle, size, rfl, hfolders,
    hcopy⟩⟩ := fetchOne_cases h
  · obtain ⟨stats, rfl, hhits⟩ := hstats
    refine .inl ⟨.refl [] _, fun other hother => ?_⟩
    cases hother
    exact hhits
  · exact .inl ⟨hfolders, fun other hother => by cases hother⟩
  · refine .inr ⟨hbuilt, ?_⟩
    obtain ⟨object, hobject⟩ := Option.isSome_iff_exists.mp hlookup
    obtain ⟨-, _, _, content, executable, -, -, hfind, -⟩ := lookup?_eq_some_iff.mp hobject
    obtain ⟨place, hlocate, hentry⟩ := FileTree.find_eq_ok_iff.mp hfind
    rw [FileTree.locate_eq_ok hlocate, placeFrom_objectFile hkey] at hentry
    have hne : (cache.objectFile key).placeFrom middle.current ≠
        (root.join job.object.text).placeFrom middle.current := by
      rw [hfolders.stay.current, placeFrom_objectFile hkey]
      exact (hapart.ne_entryPlace key _).symm
    obtain ⟨found, _, hfound, -, hread, hput⟩ := FileTree.putsFile_copy hcopy hne
    rw [hfolders.find_eq hfind List.not_mem_nil] at hfound
    cases hfound
    rw [hfolders.stay.current] at hput
    exact ⟨content, executable, hentry, hread,
      (hfolders.mono (List.nil_subset _)).trans hput.toChangesOnly, hput.holds⟩

end Effects

end ObjectCache

end Cartridge.Build
