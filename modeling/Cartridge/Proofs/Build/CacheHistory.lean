import Cartridge.Proofs.Build.CacheTurns

/-!
# Histories of the object cache

A history is a sequence of calls of stores and fetches on one cache folder, with any changes outside
of the folder between them (`ObjectCache.Run`).  A store may break off in any of its steps and leave
an unfinished file.

In every state of a history, an object of the cache holds all the bytes that a store found at the
object of a job with its key (`ObjectCache.Faithful`): an object gets into its place by a renaming
of a complete copy.  The records only add that an entry, once accepted, is not replaced
(`ObjectCache.Keeps`).  Both carry over from turn to turn and so from call to call
(`ObjectCache.Step.advances`).
-/

namespace Cartridge.Build.ObjectCache

open Cartridge.Digest (Key)
open Cartridge.Files (FileTree FilePath Location Content Entry)
open Cartridge.Files.FileTree (ChangesOnly)

/-! ## Calls -/

/-- What a turn of a store finds at the object of its job. -/
def foundAt (root : FilePath) (tree : FileTree) (job : CompileJob) (key : Key) :
    List (Key × ByteArray) :=
  match tree.read (root.join job.object.text) with
  | .ok data => [(key, data)]
  | .error _ => []

/-- What a store finds at the objects of its jobs, turn by turn until it stops. -/
def foundBy (cache : ObjectCache) (root : FilePath) :
    List (CompileJob × Key) → World → List (Key × ByteArray)
  | [], _ => []
  | (job, key) :: rest, world =>
    let turn := (cache.storeOne root job key).run world
    foundAt root world.tree job key ++
      if turn.1.isOk then foundBy cache root rest turn.2 else []

lemma foundBy_cons_of_error {cache : ObjectCache} {root : FilePath} {job : CompileJob} {key : Key}
    {rest : List (CompileJob × Key)} {world later : World} {error : Error}
    (h : (cache.storeOne root job key).run world = (.error error, later)) :
    cache.foundBy root ((job, key) :: rest) world = foundAt root world.tree job key := by
  rw [foundBy, h]
  exact List.append_nil _

lemma foundBy_cons_of_ok {cache : ObjectCache} {root : FilePath} {job : CompileJob} {key : Key}
    {rest : List (CompileJob × Key)} {world later : World} {stats : CacheStats}
    (h : (cache.storeOne root job key).run world = (.ok stats, later)) :
    cache.foundBy root ((job, key) :: rest) world =
      foundAt root world.tree job key ++ cache.foundBy root rest later := by
  rw [foundBy, h]
  rfl

/-- The keys are digests, and the objects lie outside of the cache. -/
def Admissible (folder root : FilePath) (current : Location)
    (pairs : List (CompileJob × Key)) : Prop :=
  ∀ pair ∈ pairs, IsHex pair.2 ∧ Apart folder root current pair.1

/-- A change that leaves the cache folder alone and where it is. -/
structure Outside (folder : FilePath) (tree later : FileTree) : Prop where
  current : later.current = tree.current
  cached : ∀ place, folder.placeFrom tree.current <+: place → later.at? place = tree.at? place
  reachable : ∀ place, tree.resolve folder = .ok place → later.resolve folder = .ok place
  rooted : later.Rooted

/-- One thing that happens, with what a store found in it. -/
inductive Step (folder : FilePath) : FileTree → List (Key × ByteArray) → FileTree → Prop
  | outside {tree later : FileTree} (h : Outside folder tree later) : Step folder tree [] later
  | store (cache : ObjectCache) (hcache : cache.root = folder) (root : FilePath)
      (jobs : List CompileJob) (keys : List Key) (world : World)
      (hpairs : Admissible folder root world.tree.current (jobs.zip keys)) :
      Step folder world.tree (cache.foundBy root (jobs.zip keys) world)
        ((cache.store root jobs keys).run world).2.tree
  /-- The store comes to a job, starts to add an entry and breaks off. -/
  | brokenStore (cache : ObjectCache) (hcache : cache.root = folder) (root : FilePath)
      (jobs : List CompileJob) (keys : List Key) (world : World)
      (hpairs : Admissible folder root world.tree.current (jobs.zip keys))
      {front rest : List (CompileJob × Key)} {job : CompileJob} {key : Key}
      (hzip : jobs.zip keys = front ++ (job, key) :: rest) {stats : CacheStats} {middle : World}
      (hfront : (each (cache.storeOne root) front).run world = (.ok stats, middle))
      (hbuilt : middle.tree.isFile (root.join job.object.text) = true)
      (hnone : cache.lookup? middle.tree key = none) {later : FileTree}
      (hleaves : Leaves cache root job key middle.tree later) :
      Step folder world.tree
        (cache.foundBy root front world ++ foundAt root middle.tree job key) later
  | fetch (cache : ObjectCache) (hcache : cache.root = folder) (root : FilePath)
      (jobs : List CompileJob) (keys : List Key) (world : World)
      (hpairs : Admissible folder root world.tree.current (jobs.zip keys)) :
      Step folder world.tree [] ((cache.fetch root jobs keys).run world).2.tree

/-- A finite history from a tree, with everything that stores found in it. -/
inductive Run (folder : FilePath) (tree : FileTree) : List (Key × ByteArray) → FileTree → Prop
  | start : Run folder tree [] tree
  | step {found more : List (Key × ByteArray)} {middle later : FileTree}
      (before : Run folder tree found middle) (step : Step folder middle more later) :
      Run folder tree (found ++ more) later

/-! ## What histories keep -/

variable {cache : ObjectCache} {folder root : FilePath} {job : CompileJob} {key : Key}
  {found more : List (Key × ByteArray)} {tree middle later : FileTree}

/-- Objects of the cache hold what was found under their keys. -/
structure Faithful (folder : FilePath) (found : List (Key × ByteArray)) (tree : FileTree) :
    Prop where
  rooted : tree.Rooted
  object : ∀ key, IsHex key → ∀ content executable,
    tree.at? (entryPlace folder tree.current key ".o") = some (.file content executable) →
      (key, content.data) ∈ found

/-- Accepted entries stay accepted, with the same object. -/
def Keeps (folder : FilePath) (tree later : FileTree) : Prop :=
  ∀ cache : ObjectCache, cache.root = folder → ∀ key object, IsHex key →
    cache.lookup? tree key = some object →
      cache.lookup? later key = some object ∧ later.find object = tree.find object

/-- A passage of a history in which more was found. -/
structure Advances (folder : FilePath) (found more : List (Key × ByteArray))
    (tree later : FileTree) : Prop where
  current : later.current = tree.current
  faithful : Faithful folder (found ++ more) later
  keeps : Keeps folder tree later

lemma Keeps.trans (first : Keeps folder tree middle) (second : Keeps folder middle later) :
    Keeps folder tree later := by
  intro cache hcache key object hkey hlookup
  obtain ⟨hmiddle, hfind⟩ := first cache hcache key object hkey hlookup
  obtain ⟨hlater, hfind'⟩ := second cache hcache key object hkey hmiddle
  exact ⟨hlater, hfind'.trans hfind⟩

namespace Advances

lemma refl (h : Faithful folder found tree) : Advances folder found [] tree tree where
  current := rfl
  faithful := by rwa [List.append_nil]
  keeps _ _ _ _ _ hlookup := ⟨hlookup, rfl⟩

lemma trans {rest : List (Key × ByteArray)} (first : Advances folder found more tree middle)
    (second : Advances folder (found ++ more) rest middle later) :
    Advances folder found (more ++ rest) tree later where
  current := second.current.trans first.current
  faithful := by
    rw [← List.append_assoc]
    exact second.faithful
  keeps := first.keeps.trans second.keeps

end Advances

/-- An entry stays accepted when its files are found as before. -/
lemma keeps_of_find (h : ∀ cache : ObjectCache, cache.root = folder → ∀ key object, IsHex key →
      cache.lookup? tree key = some object → ∀ ending ∈ [".o", ".json"], ∀ entry,
        tree.find ((cache.folder key).join (key.text ++ ending)) = .ok entry →
        later.find ((cache.folder key).join (key.text ++ ending)) = .ok entry) :
    Keeps folder tree later := by
  intro cache hcache key object hkey hlookup
  have hfiles := h cache hcache key object hkey hlookup
  obtain ⟨rfl, data, record, content, executable, hread, hrecord, hfind, hsize⟩ :=
    lookup?_eq_some_iff.mp hlookup
  have hfind' := hfiles ".o" (by simp) _ hfind
  obtain ⟨recorded, permission, hrecorded, hdata⟩ := FileTree.read_eq_ok_iff.mp hread
  have hrecorded' := hfiles ".json" (by simp) _ hrecorded
  have hread' := FileTree.read_eq_ok_iff.mpr ⟨recorded, permission, hrecorded', hdata⟩
  exact ⟨lookup?_eq_some_iff.mpr
    ⟨rfl, data, record, content, executable, hread', hrecord, hfind', hsize⟩,
    hfind'.trans hfind.symm⟩

lemma Faithful.mono (h : Faithful folder found tree) (hsub : found ⊆ more) :
    Faithful folder more tree where
  rooted := h.rooted
  object key hkey content executable hfile := hsub (h.object key hkey content executable hfile)

/-! ## Changes outside of the cache -/

/-- What lies in the folder of an entry is found as before. -/
lemma Outside.find_eq (h : Outside cache.root tree later) (hkey : IsHex key) {ending : String}
    (hending : '/' ∉ ending.toList) {entry : Entry}
    (hfind : tree.find ((cache.folder key).join (key.text ++ ending)) = .ok entry) :
    later.find ((cache.folder key).join (key.text ++ ending)) = .ok entry := by
  obtain ⟨place, hlocate, hentry⟩ := FileTree.find_eq_ok_iff.mp hfind
  have hplace : place = entryPlace cache.root tree.current key ending :=
    (FileTree.locate_eq_ok hlocate).trans (placeFrom_entry hkey hending)
  refine FileTree.find_eq_ok_iff.mpr ⟨place, ?_, ?_⟩
  swap
  · rw [hplace, h.cached _ (prefix_entryPlace _ _ _ _), ← hplace]
    exact hentry
  rw [FileTree.locate_eq_ok_iff] at hlocate ⊢
  refine ⟨hlocate.1, ?_⟩
  -- the look-up comes to the cache folder, and from there all folders are as before
  obtain ⟨-, hresolve⟩ := hlocate
  rw [ObjectCache.folder, FileTree.resolve_join_name _ _ (hkey.isName_append hending),
    FileTree.resolve_join_name _ _ hkey.isName_shard, bind_eq_ok] at hresolve ⊢
  obtain ⟨shard, hshard, hname⟩ := hresolve
  rw [bind_eq_ok] at hshard
  obtain ⟨base, hbase, hshard⟩ := hshard
  have hbasePlace := FileTree.resolve_eq_ok hbase
  obtain ⟨hbaseFolder, hnext⟩ := FileTree.step_eq_ok hshard
  obtain ⟨hshardFolder, -⟩ := FileTree.step_eq_ok hname
  rw [hkey.isName_shard.follow_eq] at hnext
  have hbaseLater : later.at? base = some .folder := by
    rw [h.cached base (hbasePlace ▸ List.prefix_refl _)]
    exact hbaseFolder
  have hshardLater : later.at? shard = some .folder := by
    rw [h.cached shard (by rw [hnext, ← hbasePlace]; exact List.prefix_append _ _)]
    exact hshardFolder
  refine ⟨shard, bind_eq_ok.mpr ⟨base, h.reachable base hbase, ?_⟩, ?_⟩
  · rw [FileTree.step_of_folder hbaseFolder hbaseLater]
    exact hshard
  · rw [FileTree.step_of_folder hshardFolder hshardLater]
    exact hname

lemma Outside.advances (h : Outside folder tree later) (hfaithful : Faithful folder found tree) :
    Advances folder found [] tree later where
  current := h.current
  faithful := by
    refine ⟨h.rooted, fun key hkey content executable hfile => ?_⟩
    rw [h.current, h.cached _ (prefix_entryPlace _ _ _ _)] at hfile
    rw [List.append_nil]
    exact hfaithful.object key hkey content executable hfile
  keeps := by
    refine keeps_of_find fun cache hcache key object hkey _ ending hending entry hfind => ?_
    subst hcache
    refine h.find_eq hkey ?_ hfind
    simp only [List.mem_cons, List.not_mem_nil, or_false] at hending
    rcases hending with rfl | rfl <;> decide

/-! ## Turns -/

/-- Entries do not depend on who writes. -/
lemma lookup?_congr {cache' : ObjectCache} (h : cache'.root = cache.root) (tree : FileTree)
    (key : Key) : cache'.lookup? tree key = cache.lookup? tree key := by
  simp only [lookup?, recordFile, objectFile, ObjectCache.folder, h]

lemma mem_foundAt {content : Content} {executable : Bool}
    (h : tree.find (root.join job.object.text) = .ok (.file content executable)) :
    (key, content.data) ∈ foundAt root tree job key := by
  rw [foundAt, FileTree.read_eq_ok_iff.mpr ⟨content, executable, h, rfl⟩]
  exact List.mem_singleton_self _

/-- Files that lie in none of the places where something changes are found as before. -/
lemma keeps_of_changesOnly {places : List Location} (h : ChangesOnly places tree later)
    (hplaces : ∀ cache : ObjectCache, cache.root = folder → ∀ key object,
      cache.lookup? tree key = some object → ∀ ending ∈ [".o", ".json"],
        entryPlace folder tree.current key ending ∉ places) :
    Keeps folder tree later := by
  refine keeps_of_find fun cache hcache key object hkey hlookup ending hending entry hfind => ?_
  refine h.find_eq hfind ?_
  have hslash : '/' ∉ ending.toList := by
    simp only [List.mem_cons, List.not_mem_nil, or_false] at hending
    rcases hending with rfl | rfl <;> decide
  rw [placeFrom_entry hkey hslash, hcache]
  exact hplaces cache hcache key object hlookup ending hending

/-- A change inside an entry that is not accepted yet, with an object that was found. -/
lemma Enters.advances {content : Content} (h : Enters cache key content tree later)
    (hfaithful : Faithful cache.root found tree) (hnone : cache.lookup? tree key = none)
    (hmem : (key, content.data) ∈ more) : Advances cache.root found more tree later where
  current := h.stay.current
  faithful := by
    refine ⟨h.rooted hfaithful.rooted, fun other hother found executable hfile => ?_⟩
    rw [h.stay.current] at hfile
    rw [List.mem_append]
    by_cases hkeys : other = key
    · subst hkeys
      rcases h.object found executable hfile with hold | rfl
      · exact .inl (hfaithful.object other hother found executable hold)
      · exact .inr hmem
    · rw [h.at?_file_iff (object_not_mem_entryPlaces hkeys)] at hfile
      exact .inl (hfaithful.object other hother found executable hfile)
  keeps := by
    refine keeps_of_changesOnly h.toChangesOnly
      fun cache' hcache other object hlookup ending hending => ?_
    have hkeys : other ≠ key := by
      rintro rfl
      rw [lookup?_congr hcache] at hlookup
      cases hlookup.symm.trans hnone
    simp only [List.mem_cons, List.not_mem_nil, or_false] at hending
    rcases hending with rfl | rfl
    · exact object_not_mem_entryPlaces hkeys
    · exact record_not_mem_entryPlaces hkeys

variable {world after : World} {result : Except Error CacheStats} {pairs : List (CompileJob × Key)}

lemma storeOne_advances (hkey : IsHex key) (hapart : Apart cache.root root world.tree.current job)
    (hfaithful : Faithful cache.root found world.tree)
    (h : (cache.storeOne root job key).run world = (result, after)) :
    Advances cache.root found (foundAt root world.tree job key) world.tree after.tree := by
  obtain ⟨rfl, -⟩ | ⟨hfile, hnone, hchange⟩ := storeOne_cases h
  · exact { (Advances.refl hfaithful) with
      faithful := hfaithful.mono (List.subset_append_left _ _) }
  obtain ⟨content, executable, hfind⟩ := FileTree.isFile_iff.mp hfile
  have hleaves : Leaves cache root job key world.tree after.tree := by
    rcases hchange with ⟨_, -, hleaves⟩ | ⟨-, renamed, text, hplaces, hwrite⟩
    · exact hleaves
    · exact .record hplaces (FileTree.putsFile_write hwrite)
  exact (hleaves.enters hkey hapart hfaithful.rooted hfind).advances hfaithful hnone
    (mem_foundAt hfind)

lemma fetchOne_changesOnly (hkey : IsHex key)
    (hapart : Apart cache.root root world.tree.current job)
    (h : (cache.fetchOne root job key).run world = (result, after)) :
    ChangesOnly [objectPlace root world.tree.current job] world.tree after.tree := by
  obtain ⟨hfolders, -⟩ | ⟨-, _, _, -, -, hput⟩ := fetchOne_changes hkey hapart rfl h
  · exact hfolders.mono (List.nil_subset _)
  · exact hput.toChangesOnly

lemma fetchOne_advances (hkey : IsHex key) (hapart : Apart cache.root root world.tree.current job)
    (hfaithful : Faithful cache.root found world.tree)
    (h : (cache.fetchOne root job key).run world = (result, after)) :
    Advances cache.root found [] world.tree after.tree := by
  have hchanges := fetchOne_changesOnly hkey hapart h
  have houtside : ∀ other ending,
      entryPlace cache.root world.tree.current other ending ∉
        [objectPlace root world.tree.current job] := by
    intro other ending hmem
    exact hapart.ne_entryPlace other ending (List.mem_singleton.mp hmem).symm
  refine ⟨hchanges.stay.current, ⟨hchanges.rooted hfaithful.rooted, ?_⟩,
    keeps_of_changesOnly hchanges fun _ _ other _ _ ending _ => houtside other ending⟩
  intro other hother content executable hfile
  rw [hchanges.stay.current, hchanges.at?_file_iff (houtside _ _)] at hfile
  rw [List.append_nil]
  exact hfaithful.object other hother content executable hfile

/-! ## Calls and histories -/

/-- A call goes on after its first turn unless that fails. -/
lemma each_cons_cases {step : CompileJob → Key → Action CacheStats} {rest : List (CompileJob × Key)}
    (h : (each step ((job, key) :: rest)).run world = (result, after)) :
    (∃ error, (step job key).run world = (.error error, after)) ∨
      ∃ first middle more, (step job key).run world = (.ok first, middle) ∧
        (each step rest).run middle = (more, after) := by
  rw [each] at h
  obtain ⟨first, middle, hfirst, h⟩ | ⟨error, herror, -⟩ := Action.run_bind_cases h
  · right
    obtain ⟨more, _, hmore, h⟩ | ⟨error, herror, -⟩ := Action.run_bind_cases h
    · cases h
      exact ⟨first, middle, _, hfirst, hmore⟩
    · exact ⟨first, middle, _, hfirst, herror⟩
  · exact .inl ⟨error, herror⟩

lemma store_advances (h : (each (cache.storeOne root) pairs).run world = (result, after))
    (hpairs : Admissible cache.root root world.tree.current pairs)
    (hfaithful : Faithful cache.root found world.tree) :
    Advances cache.root found (cache.foundBy root pairs world) world.tree after.tree := by
  induction pairs generalizing world found result with
  | nil =>
    rw [each] at h
    cases h
    exact .refl hfaithful
  | cons pair rest ih =>
    obtain ⟨job, key⟩ := pair
    obtain ⟨⟨hkey, hapart⟩, hrest⟩ := List.forall_mem_cons.mp hpairs
    obtain ⟨error, herror⟩ | ⟨first, middle, more, hfirst, hmore⟩ := each_cons_cases h
    · rw [foundBy_cons_of_error herror]
      exact storeOne_advances hkey hapart hfaithful herror
    · have hturn := storeOne_advances hkey hapart hfaithful hfirst
      rw [foundBy_cons_of_ok hfirst]
      refine hturn.trans (ih hmore ?_ hturn.faithful)
      rw [hturn.current]
      exact hrest

lemma fetch_advances (h : (each (cache.fetchOne root) pairs).run world = (result, after))
    (hpairs : Admissible cache.root root world.tree.current pairs)
    (hfaithful : Faithful cache.root found world.tree) :
    Advances cache.root found [] world.tree after.tree := by
  induction pairs generalizing world result with
  | nil =>
    rw [each] at h
    cases h
    exact .refl hfaithful
  | cons pair rest ih =>
    obtain ⟨job, key⟩ := pair
    obtain ⟨⟨hkey, hapart⟩, hrest⟩ := List.forall_mem_cons.mp hpairs
    obtain ⟨error, herror⟩ | ⟨first, middle, more, hfirst, hmore⟩ := each_cons_cases h
    · exact fetchOne_advances hkey hapart hfaithful herror
    · have hturn := fetchOne_advances hkey hapart hfaithful hfirst
      have hfaithful' := hturn.faithful
      rw [List.append_nil] at hfaithful'
      have hnext : Advances cache.root (found ++ []) [] middle.tree after.tree := by
        rw [List.append_nil]
        refine ih hmore ?_ hfaithful'
        rw [hturn.current]
        exact hrest
      exact hturn.trans hnext

/-- Whatever happens, objects hold what was found, and accepted entries stay. -/
lemma Step.advances (h : Step folder tree more later) (hfaithful : Faithful folder found tree) :
    Advances folder found more tree later := by
  cases h with
  | outside houtside => exact houtside.advances hfaithful
  | store cache hcache root jobs keys world hpairs =>
    subst hcache
    exact store_advances rfl hpairs hfaithful
  | fetch cache hcache root jobs keys world hpairs =>
    subst hcache
    exact fetch_advances rfl hpairs hfaithful
  | brokenStore cache hcache root jobs keys world hpairs hzip hfront hbuilt hnone hleaves =>
    subst hcache
    rw [Admissible, hzip, List.forall_mem_append, List.forall_mem_cons] at hpairs
    obtain ⟨hbefore, ⟨hkey, hapart⟩, -⟩ := hpairs
    have hstored := store_advances hfront hbefore hfaithful
    obtain ⟨content, executable, hfind⟩ := FileTree.isFile_iff.mp hbuilt
    rw [← hstored.current] at hapart
    have henters := hleaves.enters hkey hapart hstored.faithful.rooted hfind
    exact hstored.trans (henters.advances hstored.faithful hnone (mem_foundAt hfind))

lemma Run.advances (h : Run folder tree more later) (hfaithful : Faithful folder found tree) :
    Advances folder found more tree later := by
  induction h with
  | start => exact .refl hfaithful
  | step _ step ih => exact ih.trans (step.advances ih.faithful)

/-- A tree whose cache is still empty. -/
structure Fresh (folder : FilePath) (tree : FileTree) : Prop where
  rooted : tree.Rooted
  unused : ∀ place content executable, folder.placeFrom tree.current <+: place →
    tree.at? place ≠ some (.file content executable)

lemma Fresh.faithful (h : Fresh folder tree) : Faithful folder [] tree where
  rooted := h.rooted
  object _ _ _ _ hfile := absurd hfile (h.unused _ _ _ (prefix_entryPlace _ _ _ _))

/-! ## Built objects -/

/-- A fetch takes no file away. -/
lemma fetchOne_isFile {path : FilePath} (hkey : IsHex key)
    (hapart : Apart cache.root root world.tree.current job)
    (h : (cache.fetchOne root job key).run world = (result, after))
    (hfile : world.tree.isFile path = true) : after.tree.isFile path = true := by
  obtain ⟨content, executable, hfind⟩ := FileTree.isFile_iff.mp hfile
  rw [FileTree.isFile_iff]
  obtain ⟨hfolders, -⟩ | ⟨-, restored, _, -, -, hput⟩ := fetchOne_changes hkey hapart rfl h
  · exact ⟨content, executable, hfolders.find_eq hfind List.not_mem_nil⟩
  by_cases hplace : path.placeFrom world.tree.current = objectPlace root world.tree.current job
  · obtain ⟨place, hlocate, -⟩ := FileTree.find_eq_ok_iff.mp hfind
    obtain ⟨permission, hholds⟩ := hput.holds
    rw [← hplace, ← FileTree.locate_eq_ok hlocate] at hholds
    exact ⟨restored, permission, FileTree.find_eq_ok_iff.mpr
      ⟨place, FileTree.locate_of_foldersStay hput.stay hlocate, hholds⟩⟩
  · exact ⟨content, executable, hput.find_eq hfind (List.mem_singleton.not.mpr hplace)⟩

/-- A file stays as it is through a fetch if every job that leads to it is built. -/
lemma fetch_find_eq {path : FilePath} {entry : Entry}
    (h : (each (cache.fetchOne root) pairs).run world = (result, after))
    (hpairs : Admissible cache.root root world.tree.current pairs)
    (hbuilt : ∀ pair ∈ pairs,
      objectPlace root world.tree.current pair.1 = path.placeFrom world.tree.current →
        pair.1.isBuilt world.tree root = true)
    (hfind : world.tree.find path = .ok entry) : after.tree.find path = .ok entry := by
  induction pairs generalizing world result with
  | nil =>
    rw [each] at h
    cases h
    exact hfind
  | cons pair rest ih =>
    obtain ⟨job, key⟩ := pair
    obtain ⟨⟨hkey, hapart⟩, hrest⟩ := List.forall_mem_cons.mp hpairs
    obtain ⟨hjob, hothers⟩ := List.forall_mem_cons.mp hbuilt
    have hturn : ∀ {result middle}, (cache.fetchOne root job key).run world = (result, middle) →
        middle.tree.find path = .ok entry := by
      intro result middle hrun
      by_cases hplace : objectPlace root world.tree.current job =
          path.placeFrom world.tree.current
      · obtain ⟨rfl, -⟩ | ⟨hnot, -⟩ := fetchOne_cases hrun
        · exact hfind
        · rw [hjob hplace] at hnot
          cases hnot
      · exact (fetchOne_changesOnly hkey hapart hrun).find_eq hfind
          (List.mem_singleton.not.mpr (Ne.symm hplace))
    obtain ⟨error, herror⟩ | ⟨first, middle, more, hfirst, hmore⟩ := each_cons_cases h
    · exact hturn herror
    · have hcurrent := (fetchOne_changesOnly hkey hapart hfirst).stay.current
      refine ih hmore ?_ ?_ (hturn hfirst)
      · rw [hcurrent]
        exact hrest
      · rw [hcurrent]
        exact fun other hother hplace =>
          fetchOne_isFile hkey hapart hfirst (hothers other hother hplace)

/-- Take any history of a cache that was empty at first, and a fetch after it.  If the fetch
restores the object of a job, it writes all the bytes that some store found at the object of a job
with this key, and nothing else.  A file stays as it was if every job that leads to it is built; so
a built object is not overwritten, unless a job leads there by a path that did not yet lead to a
file.  An entry that is accepted after the history stays accepted, with the same object, however the
history goes on. -/
theorem fetch_restores_stored_objects {start : FileTree} (hfresh : Fresh folder start)
    (hrun : Run folder start found tree) :
    (∀ (cache : ObjectCache) (root : FilePath) (jobs : List CompileJob) (keys : List Key)
        (context : Context), cache.root = folder →
      Admissible folder root tree.current (jobs.zip keys) →
      (∀ front job key rest stats middle result after,
        jobs.zip keys = front ++ (job, key) :: rest →
        (each (cache.fetchOne root) front).run ⟨tree, context⟩ = (.ok stats, middle) →
        (cache.fetchOne root job key).run middle = (result, after) →
        ChangesOnly [objectPlace root tree.current job] middle.tree after.tree ∧
        ∀ gained, result = .ok gained → gained.hits ≠ 0 → ∃ data, (key, data) ∈ found ∧
          after.tree.read (root.join job.object.text) = .ok data) ∧
      ∀ result after path entry,
        (cache.fetch root jobs keys).run ⟨tree, context⟩ = (result, after) →
        tree.find path = .ok entry →
        (∀ pair ∈ jobs.zip keys, objectPlace root tree.current pair.1 =
          path.placeFrom tree.current → pair.1.isBuilt tree root = true) →
        after.tree.find path = .ok entry) ∧
      ∀ more later, Run folder tree more later → Keeps folder tree later := by
  have hfaithful : Faithful folder found tree := (hrun.advances hfresh.faithful).faithful
  refine ⟨?_, fun more later hlater => (hlater.advances hfaithful).keeps⟩
  rintro cache root jobs keys context rfl hpairs
  refine ⟨?_, fun result after path entry hfetch hfind hbuilt =>
    fetch_find_eq hfetch hpairs hbuilt hfind⟩
  intro front job key rest stats middle result after hzip hfront hturn
  rw [Admissible, hzip, List.forall_mem_append, List.forall_mem_cons] at hpairs
  obtain ⟨hbefore, ⟨hkey, hapart⟩, -⟩ := hpairs
  have hmiddle := fetch_advances hfront hbefore hfaithful
  have hcurrent : middle.tree.current = tree.current := hmiddle.current
  rw [← hcurrent] at hapart ⊢
  refine ⟨fetchOne_changesOnly hkey hapart hturn, fun gained hgained hhits => ?_⟩
  obtain ⟨-, hnone⟩ | ⟨-, content, executable, hobject, hread, -⟩ :=
    fetchOne_changes hkey hapart rfl hturn
  · exact absurd (hnone gained hgained) hhits
  · have hmem := hmiddle.faithful.object key hkey content executable hobject
    rw [List.append_nil] at hmem
    exact ⟨content.data, hmem, hread⟩

/-- A tree with one built object. -/
def builtTree : FileTree where
  entries := [(["b"], .folder), (["b", "a.o"], .file (.bytes ⟨#[1, 2]⟩) false)]

/-- The job of the object. -/
def builtJob : CompileJob where
  source := ⟨"a.c"⟩
  object := ⟨"a.o"⟩
  tool := { label := "", program := ⟨"cc"⟩ }

lemma fresh_builtTree : Fresh ⟨"v1"⟩ builtTree where
  rooted := .of_entries (by
    intro found hfound
    simp only [builtTree, List.mem_cons, List.not_mem_nil, or_false] at hfound
    rcases hfound with rfl | rfl <;> rfl)
  unused place content executable hbelow hfile := by
    have hne : place ≠ [] := by
      rintro rfl
      cases hfile
    have hmem := FileTree.mem_of_at?_eq_some hne hfile
    simp only [builtTree, List.mem_cons, List.not_mem_nil, or_false, Prod.mk.injEq] at hmem
    rcases hmem with ⟨rfl, -⟩ | ⟨rfl, -⟩ <;> exact absurd hbelow (by decide)

lemma admissible_builtJob (root : FilePath) (h : Apart ⟨"v1"⟩ root [] builtJob) :
    Admissible ⟨"v1"⟩ root [] [(builtJob, ⟨"ab"⟩)] := by
  intro pair hpair
  rw [List.mem_singleton.mp hpair]
  exact ⟨by decide, h⟩

/-- The object of one build comes back in another. -/
theorem fetch_restores_stored_object_of_builtJob :
    ∃ data,
      (⟨"ab"⟩, data) ∈ foundBy ⟨⟨"v1"⟩, 1⟩ ⟨"b"⟩ [(builtJob, ⟨"ab"⟩)] ⟨builtTree, {}⟩ ∧
      ((fetchOne ⟨⟨"v1"⟩, 1⟩ ⟨"c"⟩ builtJob ⟨"ab"⟩).run
        ((store ⟨⟨"v1"⟩, 1⟩ ⟨"b"⟩ [builtJob] [⟨"ab"⟩]).run ⟨builtTree, {}⟩).2).2.tree.read
          ⟨"c/a.o"⟩ = .ok data := by
  have hstored : Step ⟨"v1"⟩ builtTree _ _ :=
    .store ⟨⟨"v1"⟩, 1⟩ rfl ⟨"b"⟩ [builtJob] [⟨"ab"⟩] ⟨builtTree, {}⟩
      (admissible_builtJob ⟨"b"⟩ (by unfold Apart; decide))
  have hcurrent := (hstored.advances fresh_builtTree.faithful).current
  have hhits : ((fetchOne ⟨⟨"v1"⟩, 1⟩ ⟨"c"⟩ builtJob ⟨"ab"⟩).run
      ((store ⟨⟨"v1"⟩, 1⟩ ⟨"b"⟩ [builtJob] [⟨"ab"⟩]).run ⟨builtTree, {}⟩).2).1.toOption.map
        (·.hits) = some 1 := by
    decide +kernel
  -- from here on only what was said of the store counts
  generalize ((store ⟨⟨"v1"⟩, 1⟩ ⟨"b"⟩ [builtJob] [⟨"ab"⟩]).run ⟨builtTree, {}⟩).2 = stored at *
  obtain ⟨tree, context⟩ := stored
  rcases hfetch : (fetchOne ⟨⟨"v1"⟩, 1⟩ ⟨"c"⟩ builtJob ⟨"ab"⟩).run ⟨tree, context⟩ with
    ⟨result, after⟩
  rw [hfetch] at hhits
  cases result with
  | error error => cases hhits
  | ok gained =>
    have hpairs : Admissible ⟨"v1"⟩ ⟨"c"⟩ tree.current ([builtJob].zip [⟨"ab"⟩]) := by
      rw [show tree.current = [] from hcurrent]
      exact admissible_builtJob ⟨"c"⟩ (by unfold Apart; decide)
    have hturn := ((fetch_restores_stored_objects fresh_builtTree (.step .start hstored)).1
      ⟨⟨"v1"⟩, 1⟩ ⟨"c"⟩ [builtJob] [⟨"ab"⟩] context rfl hpairs).1 [] builtJob ⟨"ab"⟩ [] {} _ _ _
      rfl rfl hfetch
    have hone : gained.hits = 1 := Option.some.inj hhits
    exact hturn.2 gained rfl (by rw [hone]; decide)

/-- The job of the object, with a path through a folder that need not be there. -/
def detourJob : CompileJob :=
  { builtJob with object := ⟨"x/../a.o"⟩ }

/-- The tree after a store, with the object built anew. -/
def rebuiltTree : FileTree :=
  ((store ⟨⟨"v1"⟩, 1⟩ ⟨"b"⟩ [builtJob] [⟨"ab"⟩]).run ⟨builtTree, {}⟩).2.tree.put ["b", "a.o"]
    (.file (.bytes ⟨#[9]⟩) false)

/-- A job that leads to a built object through a missing folder counts as not built; the fetch
creates the folder and overwrites the object. -/
theorem fetch_overwrites_built_object :
    builtJob.isBuilt rebuiltTree ⟨"b"⟩ = true ∧
      (rebuiltTree.read ⟨"b/a.o"⟩).toOption.map (·.data.toList) = some [9] ∧
      (((fetch ⟨⟨"v1"⟩, 1⟩ ⟨"b"⟩ [detourJob, builtJob] [⟨"ab"⟩, ⟨"ab"⟩]).run
        ⟨rebuiltTree, {}⟩).2.tree.read ⟨"b/a.o"⟩).toOption.map (·.data.toList) = some [1, 2] := by
  decide +kernel

end Cartridge.Build.ObjectCache
