import Cartridge.Build.Action
import Cartridge.Build.Environment
import Cartridge.Build.Plan
import Cartridge.Json.Decoder
import Cartridge.Json.Printer

/-!
# Object cache

Compiled objects are kept under keys.  A key covers the source, the headers, the signature of the
environment, the compiler and its options, so an object is taken again only for the same
compilation.  Beside every object lies a record with its size, which is written last: an object
without a fitting record does not count.
-/

namespace Cartridge.Build

open Cartridge.Digest (Key Call)
open Cartridge.Files (FileTree FilePath Fault)
open Cartridge.Json

/-! ## Keys -/

/-- The digest of all headers of a build, with their names. -/
def headersDigest (tree : FileTree) (root : FilePath) : Except Error Key := do
  let folder := root.join "include"
  let calls ← (tree.listing folder).mapM fun place => do
    let path := folder.joinAll place
    let data ← (tree.read path).mapError (Error.ofFault "read" path)
    let name := Text.replace "\\" "/" (Text.joinWith "/" place)
    return [Call.text name, Call.bytes data.data.toList]
  return .ofCalls "include-tree" calls.flatten

/-- What can be seen of an installed program: its size and when it was changed. -/
structure Inspection where
  size : UInt64
  /-- Nanoseconds since the epoch of the clock. -/
  modified : UInt64

/-- Looks at installed programs; a program that is not there shows nothing. -/
abbrev Inspector := FilePath → Option Inspection

/-- The digest of a compiler, by its path and what can be seen of it. -/
def compilerDigest (program : FilePath) (inspection : Option Inspection) : Key :=
  .ofCalls "compiler" (.text program.text ::
    match inspection with
    | some seen => [.word seen.size, .word seen.modified]
    | none => [.text "missing"])

/-- The key of an object: all that its compilation depends on. -/
def compilationKey (source : List UInt8) (signature headers compiler : Key)
    (args : List String) : Key :=
  .ofCalls "object" ([.bytes source, .text signature.text, .text headers.text,
    .text compiler.text, .word (UInt64.ofNat args.length)] ++ args.map .text)

/-- The compiler of a job.  Of several spellings of one path, the first job's counts. -/
def compilerOf (jobs : List CompileJob) (job : CompileJob) : FilePath :=
  let same (other : CompileJob) : Bool :=
    other.tool.program.components = job.tool.program.components
  ((jobs.find? same).getD job).tool.program

/-- The keys of jobs, in their order. -/
def cacheKeys (tree : FileTree) (inspect : Inspector) (root : FilePath) (jobs : List CompileJob)
    (env : Environment) : Except Error (List Key) := do
  let headers ← headersDigest tree root
  jobs.mapM fun job => do
    let path := root.join job.source.text
    let data ← (tree.read path).mapError (Error.ofFault "read" path)
    let compiler := compilerOf jobs job
    return compilationKey data.data.toList env.signature headers
      (compilerDigest compiler (inspect compiler)) job.tool.args

/-! ## The cache -/

/-- A cache in a folder. -/
structure ObjectCache where
  root : FilePath
  /-- The id of the process that writes, which is part of the names of unfinished files. -/
  writer : Nat := 1

/-- What happened to the jobs of one run. -/
structure CacheStats where
  hits : Nat := 0
  misses : Nat := 0
  stored : Nat := 0

/-- The error of a fault in the cache. -/
def cacheError (action : String) (path : FilePath) (fault : Fault) : Error :=
  .cache ("failed to " ++ action ++ " " ++ path.text ++ ": " ++ fault.message)

/-- What the record of an object says. -/
structure CacheRecord where
  source : String
  size : Nat

/-- A record as it is written. -/
def CacheRecord.json (record : CacheRecord) : Value :=
  .object [("source", .string record.source), ("size", .number (.natural record.size))]

/-- Reads a record. -/
def readRecord : Decoder CacheRecord := fun room node => do
  let given ← Decoder.fields ["source", "size"] room node
  return ⟨← Decoder.required given "source" Decoder.string,
    ← Decoder.required given "size" (Decoder.natural (Nat.pow 2 64))⟩

/-- The record that a file holds. -/
def CacheRecord.ofData? (data : ByteArray) : Option CacheRecord :=
  (Node.ofData? data).bind (readRecord nestingLimit)

namespace ObjectCache

/-- The cache in a folder; entries of other versions lie beside it. -/
def inFolder (folder : FilePath) : ObjectCache :=
  { root := folder.join "v1" }

/-- The folder of an entry, named by the start of its key. -/
def folder (cache : ObjectCache) (key : Key) : FilePath :=
  cache.root.join key.shard

/-- The file with the object of an entry. -/
def objectFile (cache : ObjectCache) (key : Key) : FilePath :=
  (cache.folder key).join (key.text ++ ".o")

/-- The file with the record of an entry. -/
def recordFile (cache : ObjectCache) (key : Key) : FilePath :=
  (cache.folder key).join (key.text ++ ".json")

/-- The file that an object is written to before it is complete. -/
def partialFile (cache : ObjectCache) (key : Key) : FilePath :=
  (cache.folder key).join (key.text ++ ".o." ++ toString cache.writer ++ ".part")

/-- The object under a key, if its record fits. -/
def lookup? (cache : ObjectCache) (tree : FileTree) (key : Key) : Option FilePath := do
  let record ← CacheRecord.ofData? (← (tree.read (cache.recordFile key)).toOption)
  let object := cache.objectFile key
  match tree.find object with
  | .ok (.file content _) => if content.data.size = record.size then some object else none
  | _ => none

/-- Copies an object into the build; answers whether there was one. -/
def fetchOne (cache : ObjectCache) (root : FilePath) (job : CompileJob) (key : Key) :
    Action CacheStats := do
  let tree ← Action.tree
  if job.isBuilt tree root then return {}
  else
    match cache.lookup? tree key with
    | none => return { misses := 1 }
    | some cached =>
      let target := root.join job.object.text
      Action.createParent (cacheError "create") target
      let _ ← Action.change (cacheError "restore" cached) (·.copy cached target)
      return { hits := 1 }

/-- Adds an object of the build that has no entry yet. -/
def storeOne (cache : ObjectCache) (root : FilePath) (job : CompileJob) (key : Key) :
    Action CacheStats := do
  let tree ← Action.tree
  let built := root.join job.object.text
  if !tree.isFile built || (cache.lookup? tree key).isSome then return {}
  else
    let object := cache.objectFile key
    let unfinished := cache.partialFile key
    let recordFile := cache.recordFile key
    Action.createParent (cacheError "create") object
    let size ← Action.change (cacheError "write" unfinished) (·.copy built unfinished)
    Action.update (cacheError "write" object) (·.rename unfinished object)
    let record : CacheRecord := ⟨job.source.text, size⟩
    Action.update (cacheError "write" recordFile) (·.writeText recordFile record.json.pretty)
    return { stored := 1 }

/-- Adds what happened to two groups of jobs. -/
def addStats (a b : CacheStats) : CacheStats :=
  ⟨a.hits + b.hits, a.misses + b.misses, a.stored + b.stored⟩

/-- Runs a step for each job with its key and adds up what happened. -/
def each (step : CompileJob → Key → Action CacheStats) :
    List (CompileJob × Key) → Action CacheStats
  | [] => return {}
  | (job, key) :: rest => do
    let first ← step job key
    return addStats first (← each step rest)

/-- Copies the objects that the cache has into the build. -/
def fetch (cache : ObjectCache) (root : FilePath) (jobs : List CompileJob) (keys : List Key) :
    Action CacheStats :=
  each (cache.fetchOne root) (jobs.zip keys)

/-- Adds the objects of the build that the cache has not. -/
def store (cache : ObjectCache) (root : FilePath) (jobs : List CompileJob) (keys : List Key) :
    Action CacheStats :=
  each (cache.storeOne root) (jobs.zip keys)

end ObjectCache

end Cartridge.Build
