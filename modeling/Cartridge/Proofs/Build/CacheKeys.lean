import Cartridge.Build.Cache
import Cartridge.Proofs.Digest.Encoding
import Cartridge.Proofs.Files.Listing
import Cartridge.Proofs.Json.Order

/-!
# What cache keys cover

A key nests three digests: of the signed variables, of the headers and of the compiler.  Each of
them is taken over a list of calls from which its parts can be read off again.  So without a
collision the key of a compilation tells all that it covers (`cache_keys_eq_iff`).

The compiler counts by the first spelling of its path among the jobs.  Where a list spells one path
in two ways, the second spelling is therefore not what its key covers
(`two_spellings_share_key`).
-/

namespace Cartridge.Build

open Cartridge.Digest (Key Call keyStream)
open Cartridge.Files (FileTree FilePath Location IsName)

/-- All that the keys of a list of jobs are computed from. -/
structure KeyInputs where
  tree : FileTree
  inspect : Inspector
  root : FilePath
  jobs : List CompileJob
  env : Environment

/-! ## Variables -/

namespace Environment

open Cartridge.Json.Fields (Ordered)

variable {vars others : List (String × String)} {name value : String}

lemma insertVariable_eq_insert (name value : String) (vars : List (String × String)) :
    insertVariable name value vars = Json.Fields.insert name value vars := by
  induction vars with
  | nil => rfl
  | cons entry rest ih => rw [insertVariable, Json.Fields.insert, ih]

variable {env : Environment}

/-- Setting variables keeps them in order. -/
lemma ordered_setAll (h : Ordered env.vars) (entries : List (String × String)) :
    Ordered (env.setAll entries).vars := by
  induction entries generalizing env with
  | nil => exact h
  | cons entry rest ih =>
    have hset : Ordered (env.set entry.1 entry.2).vars := by
      rw [set, insertVariable_eq_insert]
      exact Json.Fields.ordered_insert h _ _
    exact ih hset

lemma lookup_eq_some_iff (h : Ordered vars) :
    vars.lookup name = some value ↔ (name, value) ∈ vars := by
  induction vars with
  | nil => simp
  | cons entry rest ih =>
    obtain ⟨other, old⟩ := entry
    obtain ⟨hbelow, hrest⟩ := Json.Fields.ordered_cons.mp h
    rw [List.lookup_cons, List.mem_cons, Prod.mk.injEq, ← ih hrest]
    by_cases hname : name = other
    · subst hname
      have habsent : rest.lookup name ≠ some value := by
        intro hvalue
        exact absurd (hbelow _ ((ih hrest).mp hvalue)) (lt_irrefl name)
      simp [habsent, eq_comm]
    · have hbeq : (name == other) = false := beq_eq_false_iff_ne.mpr hname
      simp [hname, hbeq]

/-- Variables in order are told by their values. -/
lemma eq_of_lookup_eq (h : Ordered vars) (h' : Ordered others)
    (hlookup : ∀ name, vars.lookup name = others.lookup name) : vars = others := by
  have hmem : ∀ entry, entry ∈ vars ↔ entry ∈ others := by
    rintro ⟨name, value⟩
    rw [← lookup_eq_some_iff h, ← lookup_eq_some_iff h', hlookup name]
  have hperm := (List.perm_ext_iff_of_nodup (List.Nodup.of_map _ h.nodup)
    (List.Nodup.of_map _ h'.nodup)).mpr hmem
  exact hperm.eq_of_pairwise (fun a b _ _ hab hba => absurd hba hab.asymm)
    (List.pairwise_map.mp h) (List.pairwise_map.mp h')

lemma lookup_signed (env : Environment) (name : String) :
    env.signed.lookup name = if name ∈ unsigned then none else env.get? name := by
  rw [signed, get?]
  induction env.vars with
  | nil => simp
  | cons entry rest ih =>
    obtain ⟨other, value⟩ := entry
    by_cases hother : other ∈ unsigned
    · rw [List.filter_cons_of_neg (by simpa using hother), ih, List.lookup_cons]
      split_ifs with hname
      · rfl
      · have hbeq : (name == other) = false := by
          rw [beq_eq_false_iff_ne]
          rintro rfl
          exact hname hother
        simp [hbeq]
    · rw [List.filter_cons_of_pos (by simpa using hother), List.lookup_cons, ih, List.lookup_cons]
      by_cases hname : name = other
      · simp [hname, hother]
      · have hbeq : (name == other) = false := beq_eq_false_iff_ne.mpr hname
        simp [hbeq]

lemma ordered_signed (h : Ordered env.vars) : Ordered env.signed :=
  List.Pairwise.sublist (List.Sublist.map _ List.filter_sublist) h

/-- The signed variables are the same exactly when all names that count have the same values. -/
lemma signed_eq_iff {other : Environment} (h : Ordered env.vars) (h' : Ordered other.vars) :
    env.signed = other.signed ↔ ∀ name ∉ unsigned, env.get? name = other.get? name := by
  constructor
  · intro heq name hname
    have hlookup := congrArg (List.lookup name) heq
    rwa [lookup_signed, lookup_signed, if_neg hname, if_neg hname] at hlookup
  · intro hget
    refine eq_of_lookup_eq (ordered_signed h) (ordered_signed h') fun name => ?_
    rw [lookup_signed, lookup_signed]
    split_ifs with hname
    · rfl
    · exact hget name hname

end Environment

/-! ## Calls of pairs -/

/-- Pairs can be read off from their calls, if the calls of their parts tell the parts. -/
lemma flatMap_pair_inj {α β : Type} (f : α → Call) (g : β → Call) (P : α → Prop)
    (hf : ∀ a b, P a → P b → f a = f b → a = b) (hg : ∀ a b, g a = g b → a = b)
    {pairs others : List (α × β)} (hpairs : ∀ pair ∈ pairs, P pair.1)
    (hothers : ∀ pair ∈ others, P pair.1)
    (h : pairs.flatMap (fun pair => [f pair.1, g pair.2]) =
      others.flatMap fun pair => [f pair.1, g pair.2]) : pairs = others := by
  induction pairs generalizing others with
  | nil =>
    cases others with
    | nil => rfl
    | cons other others => cases h
  | cons pair pairs ih =>
    cases others with
    | nil => cases h
    | cons other others =>
      rw [List.forall_mem_cons] at hpairs hothers
      simp only [List.flatMap_cons, List.cons_append, List.nil_append, List.cons.injEq] at h
      obtain ⟨hfirst, hsecond, hrest⟩ := h
      rw [ih hpairs.2 hothers.2 hrest,
        Prod.ext (hf _ _ hpairs.1 hothers.1 hfirst) (hg _ _ hsecond)]

/-! ## Headers -/

namespace KeyInputs

/-- The folder of the headers. -/
def includeFolder (inputs : KeyInputs) : FilePath :=
  inputs.root.join "include"

/-- Below the folder of the headers, a file with this content lies at this place. -/
def IncludeFile (inputs : KeyInputs) (place : Location) (data : ByteArray) : Prop :=
  place ≠ [] ∧ (∀ name ∈ place, IsName name) ∧
    inputs.tree.read (inputs.includeFolder.joinAll place) = .ok data

/-- What is listed and can be read of the headers. -/
def includeFiles (inputs : KeyInputs) : List (Location × ByteArray) :=
  (inputs.tree.listing inputs.includeFolder).filterMap fun place =>
    (inputs.tree.read (inputs.includeFolder.joinAll place)).toOption.map (Prod.mk place)

/-- The name under which a header is digested. -/
def headerName (place : Location) : String :=
  Text.replace "\\" "/" (Text.joinWith "/" place)

/-- What is digested of the headers. -/
def headerCalls (inputs : KeyInputs) : List Call :=
  inputs.includeFiles.flatMap fun file => [.text (headerName file.1), .bytes file.2.data.toList]

/-- All listed headers can be read. -/
def Readable (inputs : KeyInputs) : Prop :=
  ∀ place ∈ inputs.tree.listing inputs.includeFolder, ∃ data,
    inputs.tree.read (inputs.includeFolder.joinAll place) = .ok data

variable {inputs other : KeyInputs}

lemma mapError_eq_ok {α : Type} {result : Except Files.Fault α} {describe : Files.Fault → Error}
    {a : α} : result.mapError describe = .ok a ↔ result = .ok a := by
  cases result with
  | ok b => simp [Except.mapError]
  | error fault => simp [Except.mapError]

lemma headersDigest_eq_ok {key : Key} (h : headersDigest inputs.tree inputs.root = .ok key) :
    inputs.Readable ∧ key = .ofCalls "include-tree" inputs.headerCalls := by
  rw [headersDigest, bind_eq_ok] at h
  obtain ⟨calls, hcalls, h⟩ := h
  cases h
  replace hcalls := forall₂_of_mapM_eq_ok hcalls
  change List.Forall₂ _ (inputs.tree.listing inputs.includeFolder) calls at hcalls
  suffices hall : inputs.Readable ∧ calls.flatten = inputs.headerCalls from
    ⟨hall.1, congrArg _ hall.2⟩
  rw [headerCalls, includeFiles, Readable]
  generalize inputs.tree.listing inputs.includeFolder = places at hcalls
  induction hcalls with
  | nil => exact ⟨fun _ hmem => absurd hmem List.not_mem_nil, rfl⟩
  | @cons place first places rest hfirst _ ih =>
    obtain ⟨data, hread, hfirst⟩ := bind_eq_ok.mp hfirst
    cases hfirst
    have hread : inputs.tree.read (inputs.includeFolder.joinAll place) = .ok data :=
      mapError_eq_ok.mp hread
    refine ⟨List.forall_mem_cons.mpr ⟨⟨data, hread⟩, ih.1⟩, ?_⟩
    rw [List.flatten_cons, ih.2, List.filterMap_cons_some (by rw [hread]; rfl), List.flatMap_cons]
    rfl

/-- What the keys of two lists of jobs are computed from is well-formed: the trees hold each
location once, the variables are in order, and no header has a backslash in its name. -/
structure Sound (inputs : KeyInputs) : Prop where
  regular : inputs.tree.Regular
  ordered : Json.Fields.Ordered inputs.env.vars
  plain : ∀ place data, inputs.IncludeFile place data → ∀ name ∈ place, '\\' ∉ name.toList

lemma text_includeFolder_ne (inputs : KeyInputs) : inputs.includeFolder.text ≠ "" := by
  rw [includeFolder, FilePath.join, if_neg (by decide)]
  intro hempty
  have hnil := String.toList_eq_nil_iff.mpr hempty
  split_ifs at hnil <;> simp at hnil

variable {place : Location} {data : ByteArray} {job : CompileJob} {env : Environment}

lemma Sound.includeFile_of_mem_listing (h : inputs.Sound)
    (hlisted : place ∈ inputs.tree.listing inputs.includeFolder)
    (hread : inputs.tree.read (inputs.includeFolder.joinAll place) = .ok data) :
    inputs.IncludeFile place data :=
  ⟨(h.regular.mem_listing.mp hlisted).2.1, h.regular.isName_of_mem_listing hlisted, hread⟩

lemma IncludeFile.mem_listing (hfile : inputs.IncludeFile place data) (h : inputs.tree.Regular) :
    place ∈ inputs.tree.listing inputs.includeFolder :=
  h.mem_listing_of_read inputs.text_includeFolder_ne hfile.2.1 hfile.1 hfile.2.2

lemma Sound.mem_includeFiles (h : inputs.Sound) :
    (place, data) ∈ inputs.includeFiles ↔ inputs.IncludeFile place data := by
  rw [includeFiles, List.mem_filterMap]
  constructor
  · rintro ⟨listed, hlisted, hfile⟩
    cases hread : inputs.tree.read (inputs.includeFolder.joinAll listed) with
    | error fault =>
      rw [hread] at hfile
      cases hfile
    | ok found =>
      rw [hread] at hfile
      cases hfile
      exact h.includeFile_of_mem_listing hlisted hread
  · intro hfile
    refine ⟨place, hfile.mem_listing h.regular, ?_⟩
    rw [hfile.2.2]
    rfl

/-- The headers are the same exactly when the same files lie in the same places. -/
lemma Sound.includeFiles_eq_iff (h : inputs.Sound) (h' : other.Sound) (hread : inputs.Readable)
    (hread' : other.Readable) :
    inputs.includeFiles = other.includeFiles ↔
      ∀ place data, inputs.IncludeFile place data ↔ other.IncludeFile place data := by
  constructor
  · intro heq place data
    rw [← h.mem_includeFiles, ← h'.mem_includeFiles, heq]
  · intro hfiles
    have hlistings : inputs.tree.listing inputs.includeFolder =
        other.tree.listing other.includeFolder := by
      refine h.regular.listing_eq_of_mem_iff h'.regular fun place => ⟨fun hlisted => ?_,
        fun hlisted => ?_⟩
      · obtain ⟨data, hdata⟩ := hread place hlisted
        exact ((hfiles place data).mp (h.includeFile_of_mem_listing hlisted hdata)).mem_listing
          h'.regular
      · obtain ⟨data, hdata⟩ := hread' place hlisted
        exact ((hfiles place data).mpr (h'.includeFile_of_mem_listing hlisted hdata)).mem_listing
          h.regular
    rw [includeFiles, includeFiles, hlistings]
    refine List.filterMap_congr fun place hplace => ?_
    obtain ⟨data, hdata⟩ := hread' place hplace
    have hfile := (hfiles place data).mpr (h'.includeFile_of_mem_listing hplace hdata)
    rw [hdata, hfile.2.2]

/-! ## Keys -/

lemma headerName_eq (h : ∀ name ∈ place, '\\' ∉ name.toList) :
    headerName place = Text.joinWith "/" place := by
  refine Text.replace_eq_self fun hmem => ?_
  rcases Text.mem_of_mem_joinWith hmem with hslash | ⟨name, hname, hmem⟩
  · exact absurd hslash (by decide)
  · exact h name hname hmem

/-- Names that can be read off from the joined text. -/
def Separable (place : Location) : Prop :=
  place ≠ [] ∧ ∀ name ∈ place, '/' ∉ name.toList ∧ '\\' ∉ name.toList

lemma Sound.separable (h : inputs.Sound) : ∀ file ∈ inputs.includeFiles, Separable file.1 := by
  rintro ⟨place, data⟩ hmem
  have hfile := h.mem_includeFiles.mp hmem
  exact ⟨hfile.1, fun name hname => ⟨(hfile.2.1 name hname).1, h.plain place data hfile name hname⟩⟩

lemma headerName_inj (place place' : Location) (h : Separable place) (h' : Separable place')
    (heq : Call.text (headerName place) = .text (headerName place')) : place = place' := by
  have htext := Call.text.inj heq
  rw [headerName_eq fun name hname => (h.2 name hname).2,
    headerName_eq fun name hname => (h'.2 name hname).2] at htext
  exact Text.joinWith_inj h.1 h'.1 (fun name hname => (h.2 name hname).1)
    (fun name hname => (h'.2 name hname).1) htext

lemma Sound.headerCalls_inj (h : inputs.Sound) (h' : other.Sound)
    (heq : inputs.headerCalls = other.headerCalls) : inputs.includeFiles = other.includeFiles := by
  refine flatMap_pair_inj (fun place => .text (headerName place))
    (fun data : ByteArray => .bytes data.data.toList) Separable headerName_inj
    (fun data data' hdata => ?_) h.separable h'.separable heq
  exact ByteArray.ext (Array.toList_inj.mp (Call.bytes.inj hdata))

/-- The compiler of a job as its key covers it: under the first spelling of its path. -/
def fingerprint (inputs : KeyInputs) (job : CompileJob) : Key :=
  compilerDigest (compilerOf inputs.jobs job)
    (inputs.inspect (compilerOf inputs.jobs job))

/-- What is digested of the variables. -/
def variableCalls (inputs : KeyInputs) : List Call :=
  inputs.env.signed.flatMap fun entry => [.text entry.1, .text entry.2]

/-- What is digested for the key of a job with this source. -/
def objectCalls (inputs : KeyInputs) (job : CompileJob) (source : ByteArray) : List Call :=
  [.bytes source.data.toList, .text (Key.ofCalls "toolchain-env" inputs.variableCalls).text,
    .text (Key.ofCalls "include-tree" inputs.headerCalls).text,
    .text (inputs.fingerprint job).text, .word (UInt64.ofNat job.tool.args.length)] ++
    job.tool.args.map .text

/-- The key of a job covers its source, the variables, the headers, the compiler and the options. -/
lemma key_eq_of_mem_zip {keys : List Key} {key : Key}
    (hkeys : cacheKeys inputs.tree inputs.inspect inputs.root inputs.jobs inputs.env = .ok keys)
    (hmem : (job, key) ∈ inputs.jobs.zip keys) :
    inputs.Readable ∧ ∃ source,
      inputs.tree.read (inputs.root.join job.source.text) = .ok source ∧
      key = .ofCalls "object" (inputs.objectCalls job source) := by
  rw [cacheKeys, bind_eq_ok] at hkeys
  obtain ⟨headers, hheaders, hkeys⟩ := hkeys
  obtain ⟨hread, rfl⟩ := headersDigest_eq_ok hheaders
  refine ⟨hread, ?_⟩
  have hstep := (List.forall₂_iff_zip.mp (forall₂_of_mapM_eq_ok hkeys)).2 hmem
  obtain ⟨source, hsource, hkey⟩ := bind_eq_ok.mp hstep
  cases hkey
  exact ⟨source, mapError_eq_ok.mp hsource, rfl⟩

/-- The streams that are digested for keys, by their domains. -/
inductive Message (inputs : KeyInputs) : String → List UInt8 → Prop
  | environment : Message inputs "toolchain-env" (keyStream "toolchain-env" inputs.variableCalls)
  | headers : Message inputs "include-tree" (keyStream "include-tree" inputs.headerCalls)
  | object {job : CompileJob} (hjob : job ∈ inputs.jobs) {source : ByteArray}
      (hsource : inputs.tree.read (inputs.root.join job.source.text) = .ok source) :
      Message inputs "object" (keyStream "object" (inputs.objectCalls job source))

/-- The digest does not collide on the streams of a domain. -/
def StreamsApart (inputs other : KeyInputs) : Prop :=
  ∀ domain, Digest.CollisionFree fun message =>
    inputs.Message domain message ∨ other.Message domain message

lemma variableCalls_eq_iff (h : inputs.Sound) (h' : other.Sound) :
    inputs.variableCalls = other.variableCalls ↔
      ∀ name ∉ Environment.unsigned, inputs.env.get? name = other.env.get? name := by
  rw [← Environment.signed_eq_iff h.ordered h'.ordered]
  refine ⟨fun heq => ?_, fun heq => by rw [variableCalls, variableCalls, heq]⟩
  exact flatMap_pair_inj .text .text (fun _ => True) (fun _ _ _ _ => Call.text.inj)
    (fun _ _ => Call.text.inj) (fun _ _ => trivial) (fun _ _ => trivial) heq

lemma headerCalls_eq_iff (h : inputs.Sound) (h' : other.Sound) (hread : inputs.Readable)
    (hread' : other.Readable) :
    inputs.headerCalls = other.headerCalls ↔
      ∀ place data, inputs.IncludeFile place data ↔ other.IncludeFile place data := by
  rw [← h.includeFiles_eq_iff h' hread hread']
  exact ⟨h.headerCalls_inj h', fun heq => by rw [headerCalls, headerCalls, heq]⟩

/-- The calls behind a key tell its parts. -/
lemma objectCalls_eq_iff {job' : CompileJob} {source source' : ByteArray} :
    inputs.objectCalls job source = other.objectCalls job' source' ↔
      source = source' ∧ job.tool.args = job'.tool.args ∧
        Key.ofCalls "toolchain-env" inputs.variableCalls =
          .ofCalls "toolchain-env" other.variableCalls ∧
        Key.ofCalls "include-tree" inputs.headerCalls = .ofCalls "include-tree" other.headerCalls ∧
        inputs.fingerprint job = other.fingerprint job' := by
  constructor
  · intro heq
    simp only [objectCalls, List.cons_append, List.nil_append, List.cons.injEq, Call.bytes.injEq,
      Call.text.injEq] at heq
    obtain ⟨hsource, hvariables, hheaders, hcompiler, -, hargs⟩ := heq
    exact ⟨ByteArray.ext (Array.toList_inj.mp hsource),
      (List.map_inj_right fun _ _ => Call.text.inj).mp hargs, Key.text_injective hvariables,
      Key.text_injective hheaders, Key.text_injective hcompiler⟩
  · rintro ⟨rfl, hargs, hvariables, hheaders, hcompiler⟩
    rw [objectCalls, objectCalls, hargs, hvariables, hheaders, hcompiler]

/-- Where a path is spelled in one way, the compiler counts under its own path. -/
lemma fingerprint_of_one_spelling (hjob : job ∈ inputs.jobs)
    (h : ∀ other ∈ inputs.jobs, other.tool.program.components = job.tool.program.components →
      other.tool.program = job.tool.program) :
    inputs.fingerprint job =
      compilerDigest job.tool.program (inputs.inspect job.tool.program) := by
  have hprogram : compilerOf inputs.jobs job = job.tool.program := by
    rw [compilerOf]
    cases hfind : inputs.jobs.find? fun other =>
        decide (other.tool.program.components = job.tool.program.components) with
    | none => exact absurd (by simp) (List.find?_eq_none.mp hfind job hjob)
    | some first =>
      exact h first (List.mem_of_find?_eq_some hfind) (by simpa using List.find?_some hfind)
  rw [fingerprint, hprogram]

/-- Without a collision, two keys are equal exactly when the sources have the same bytes, the
options are the same, the variables agree on every name that is signed, the same headers lie in the
same places, and the compilers have the same fingerprint.  The fingerprint is that of the job's own
program where the list spells its path in one way. -/
theorem cache_keys_eq_iff (h : inputs.Sound) (h' : other.Sound)
    (hapart : StreamsApart inputs other) {keys keys' : List Key}
    (hkeys : cacheKeys inputs.tree inputs.inspect inputs.root inputs.jobs inputs.env = .ok keys)
    (hkeys' : cacheKeys other.tree other.inspect other.root other.jobs other.env = .ok keys')
    {job job' : CompileJob} {key key' : Key} (hmem : (job, key) ∈ inputs.jobs.zip keys)
    (hmem' : (job', key') ∈ other.jobs.zip keys') :
    (key = key' ↔
      inputs.tree.read (inputs.root.join job.source.text) =
          other.tree.read (other.root.join job'.source.text) ∧
        job.tool.args = job'.tool.args ∧
        (∀ name ∉ Environment.unsigned, inputs.env.get? name = other.env.get? name) ∧
        (∀ place data, inputs.IncludeFile place data ↔ other.IncludeFile place data) ∧
        inputs.fingerprint job = other.fingerprint job') ∧
    ((∀ j ∈ inputs.jobs, j.tool.program.components = job.tool.program.components →
        j.tool.program = job.tool.program) →
      inputs.fingerprint job =
        compilerDigest job.tool.program (inputs.inspect job.tool.program)) := by
  refine ⟨?_, fingerprint_of_one_spelling (List.of_mem_zip hmem).1⟩
  obtain ⟨hread, source, hsource, rfl⟩ := key_eq_of_mem_zip hkeys hmem
  obtain ⟨hread', source', hsource', rfl⟩ := key_eq_of_mem_zip hkeys' hmem'
  have hobject : Key.ofCalls "object" (inputs.objectCalls job source) =
      .ofCalls "object" (other.objectCalls job' source') ↔
        inputs.objectCalls job source = other.objectCalls job' source' :=
    ⟨(hapart "object").ofCalls_inj (.inl (.object (List.of_mem_zip hmem).1 hsource))
      (.inr (.object (List.of_mem_zip hmem').1 hsource')), congrArg _⟩
  have hvariables : Key.ofCalls "toolchain-env" inputs.variableCalls =
      .ofCalls "toolchain-env" other.variableCalls ↔
        inputs.variableCalls = other.variableCalls :=
    ⟨(hapart "toolchain-env").ofCalls_inj (.inl .environment) (.inr .environment), congrArg _⟩
  have hheaders : Key.ofCalls "include-tree" inputs.headerCalls =
      .ofCalls "include-tree" other.headerCalls ↔ inputs.headerCalls = other.headerCalls :=
    ⟨(hapart "include-tree").ofCalls_inj (.inl .headers) (.inr .headers), congrArg _⟩
  rw [hobject, objectCalls_eq_iff, hvariables, hheaders, variableCalls_eq_iff h h',
    headerCalls_eq_iff h h' hread hread', hsource, hsource', Except.ok.injEq]

/-- A tree with one source. -/
def spelledTree : FileTree where
  entries := [(["a.c"], .file (.bytes ⟨#[1]⟩) false)]

/-- The compilation of the source with a compiler. -/
def spelledJob (program : String) : CompileJob where
  source := ⟨"a.c"⟩
  object := ⟨"a.o"⟩
  tool := { label := "", program := ⟨program⟩, args := ["-c"] }

/-- The installed compiler, which both spellings of its path lead to. -/
def spelledCompiler : Inspector := fun _ => some ⟨9, 5⟩

/-- The compilation with some variables. -/
def spelledInputs (env : Environment) : KeyInputs :=
  ⟨spelledTree, spelledCompiler, ⟨""⟩, [spelledJob "/cc"], env⟩

lemma listing_spelledTree : spelledTree.listing (FilePath.join ⟨""⟩ "include") = [] :=
  FileTree.listing_of_not_isFolder (by decide)

lemma regular_spelledTree : spelledTree.Regular :=
  ⟨by decide, by decide⟩

lemma sound_spelledInputs (h : Json.Fields.Ordered env.vars) :
    (spelledInputs env).Sound where
  regular := regular_spelledTree
  ordered := h
  plain place data hfile := by
    have hlisted : place ∈ spelledTree.listing (FilePath.join ⟨""⟩ "include") :=
      hfile.mem_listing regular_spelledTree
    rw [listing_spelledTree] at hlisted
    exact absurd hlisted List.not_mem_nil

lemma message_spelledInputs (henv : env.signed = []) {domain : String} {message : List UInt8}
    (h : (spelledInputs env).Message domain message) :
    domain = "toolchain-env" ∧ message = keyStream "toolchain-env" [] ∨
      domain = "include-tree" ∧ message = keyStream "include-tree" [] ∨
      domain = "object" ∧ message =
        keyStream "object" ((spelledInputs {}).objectCalls (spelledJob "/cc") ⟨#[1]⟩) := by
  have hvariables : (spelledInputs env).variableCalls = [] := by
    rw [variableCalls, spelledInputs, henv]
    rfl
  cases h with
  | environment => exact .inl ⟨rfl, by rw [hvariables]⟩
  | headers =>
    refine .inr (.inl ⟨rfl, ?_⟩)
    rw [headerCalls, includeFiles, includeFolder, spelledInputs, listing_spelledTree]
    rfl
  | object hjob hsource =>
    obtain rfl := List.mem_singleton.mp hjob
    have hread : spelledTree.read (FilePath.join ⟨""⟩ "a.c") = .ok ⟨#[1]⟩ := by rfl
    cases hread.symm.trans hsource
    refine .inr (.inr ⟨rfl, ?_⟩)
    rw [objectCalls, hvariables]
    rfl

lemma streamsApart_spelledInputs {env' : Environment} (henv : env.signed = [])
    (henv' : env'.signed = []) : StreamsApart (spelledInputs env) (spelledInputs env') := by
  have hshort : (keyStream "object"
      ((spelledInputs {}).objectCalls (spelledJob "/cc") ⟨#[1]⟩)).length < 2 ^ 61 := by
    decide +kernel
  intro domain
  refine ⟨fun message hmessage => ?_, fun first second hfirst hsecond _ => ?_⟩
  · have hcases := hmessage.elim (message_spelledInputs henv) (message_spelledInputs henv')
    rcases hcases with ⟨-, rfl⟩ | ⟨-, rfl⟩ | ⟨-, rfl⟩
    · decide +kernel
    · decide +kernel
    · exact hshort
  · have hcases := hfirst.elim (message_spelledInputs henv) (message_spelledInputs henv')
    have hcases' := hsecond.elim (message_spelledInputs henv) (message_spelledInputs henv')
    rcases hcases with ⟨rfl, rfl⟩ | ⟨rfl, rfl⟩ | ⟨rfl, rfl⟩ <;>
      rcases hcases' with ⟨hdomain, rfl⟩ | ⟨hdomain, rfl⟩ | ⟨hdomain, rfl⟩ <;>
        first | rfl | exact absurd hdomain (by decide)

lemma exists_key_spelledInputs (env : Environment) : ∃ key,
    cacheKeys spelledTree spelledCompiler ⟨""⟩ [spelledJob "/cc"] env = .ok [key] := by
  unfold cacheKeys headersDigest
  dsimp only
  rw [listing_spelledTree]
  exact ⟨_, rfl⟩

/-- Variables that do not count leave the key alone. -/
theorem cache_keys_eq_iff_search_path : ∃ key,
    cacheKeys spelledTree spelledCompiler ⟨""⟩ [spelledJob "/cc"]
        (.setAll {} [("PATH", "/bin")]) = .ok [key] ∧
      cacheKeys spelledTree spelledCompiler ⟨""⟩ [spelledJob "/cc"] {} = .ok [key] := by
  obtain ⟨key, hkey⟩ := exists_key_spelledInputs (.setAll {} [("PATH", "/bin")])
  obtain ⟨key', hkey'⟩ := exists_key_spelledInputs {}
  have hvalues : ∀ name ∉ Environment.unsigned,
      (Environment.setAll {} [("PATH", "/bin")]).get? name = ({} : Environment).get? name := by
    intro name hname
    have hbeq : (name == "PATH") = false := by
      rw [beq_eq_false_iff_ne]
      rintro rfl
      exact hname (by decide)
    change List.lookup name [("PATH", "/bin")] = none
    rw [List.lookup_cons, hbeq]
    rfl
  have heq : key = key' :=
    (cache_keys_eq_iff (sound_spelledInputs (Environment.ordered_setAll (by decide) _))
      (sound_spelledInputs (by decide)) (streamsApart_spelledInputs (by decide) (by decide)) hkey
      hkey' List.mem_cons_self List.mem_cons_self).1.mpr
      ⟨rfl, rfl, hvalues, fun _ _ => Iff.rfl, rfl⟩
  exact ⟨key, hkey, heq ▸ hkey'⟩

/-- Two compilers with different fingerprints share a key when one list spells their path in two
ways. -/
theorem two_spellings_share_key : ∃ key,
    cacheKeys spelledTree spelledCompiler ⟨""⟩ [spelledJob "/cc", spelledJob "//cc"] {} =
        .ok [key, key] ∧
      compilerDigest ⟨"/cc"⟩ (spelledCompiler ⟨"/cc"⟩) ≠
        compilerDigest ⟨"//cc"⟩ (spelledCompiler ⟨"//cc"⟩) := by
  have hdigests : compilerDigest ⟨"/cc"⟩ (spelledCompiler ⟨"/cc"⟩) ≠
      compilerDigest ⟨"//cc"⟩ (spelledCompiler ⟨"//cc"⟩) := by
    decide +kernel
  unfold cacheKeys headersDigest
  dsimp only
  rw [listing_spelledTree]
  exact ⟨_, rfl, hdigests⟩

end KeyInputs

end Cartridge.Build
