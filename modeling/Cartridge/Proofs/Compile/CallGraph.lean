import Cartridge.Proofs.Compile.Consistency
import Cartridge.Proofs.Digest.Encoding
import Cartridge.Proofs.Source.FileSet

/-!
# The calls between compiled scripts

A session's scripts and their calls form a closed graph: every symbol that a listing calls belongs
to one script, and no symbol belongs to two.  A shared script is found by a digest, so that two
calls reach the same script exactly when they name the same custom event with the same arguments
holds only as long as the digest does not collide on what can be reached (`KeysApart`).
-/

namespace Cartridge.Compile

open Cartridge.Script
open Cartridge.Tables (SceneEntry)

variable {scope : Scope} {requests : List Request}

/-! ## Keys -/

/-- What is digested for the key of a callee. -/
def keyMessage (callee : Callee) : List UInt8 :=
  Digest.keyStream "custom-call"
    (.text callee.custom.id :: Digest.valueCalls (.object callee.bound))

/-- Callees that name the same custom event with the same arguments; numbers count by their
text. -/
def SameCall (callee other : Callee) : Prop :=
  callee.custom.id = other.custom.id ∧ Digest.FieldsAlike callee.bound other.bound

/-- The digest does not collide on the keys of the callees that can be reached. -/
def KeysApart (scope : Scope) (requests : List Request) : Prop :=
  Digest.CollisionFree fun message =>
    ∃ callee levels, Reached scope requests levels (.shared callee) ∧ keyMessage callee = message

lemma SameCall.key_eq {callee other : Callee} (h : SameCall callee other) :
    callee.key = other.key := by
  have hcalls :
      Digest.valueCalls (.object callee.bound) = Digest.valueCalls (.object other.bound) :=
    Digest.Alike.calls_eq (by rw [Digest.Alike]; exact h.2)
  show Digest.Key.ofCalls _ (_ :: Digest.valueCalls _) =
    Digest.Key.ofCalls _ (_ :: Digest.valueCalls _)
  rw [h.1, hcalls]

/-- Without a collision the key tells exactly the calls apart that are not the same. -/
lemma KeysApart.key_eq_iff (h : KeysApart scope requests) {callee other : Callee}
    {levels below : Nat} (hcallee : Reached scope requests levels (.shared callee))
    (hother : Reached scope requests below (.shared other)) :
    callee.key = other.key ↔ SameCall callee other := by
  refine ⟨fun hkey => ?_, SameCall.key_eq⟩
  have hmessage := (⟨callee, levels, hcallee, rfl⟩ :
    ∃ c l, Reached scope requests l (.shared c) ∧ keyMessage c = keyMessage callee)
  have hmessage' := (⟨other, below, hother, rfl⟩ :
    ∃ c l, Reached scope requests l (.shared c) ∧ keyMessage c = keyMessage other)
  have hcalls := List.cons.inj (h.ofCalls_inj hmessage hmessage' hkey)
  refine ⟨by simpa using hcalls.1, ?_⟩
  have hcounts : ∀ {c}, (∃ c' l, Reached scope requests l (.shared c') ∧
      keyMessage c' = keyMessage c) → Digest.CountsFit (.object c.bound) := by
    intro c hc
    have hlength := h.short _ hc
    have hle := Digest.length_le_length_stream (.tag "custom-call" :: .text c.custom.id ::
      Digest.valueCalls (.object c.bound))
    rw [keyMessage, Digest.keyStream] at hlength
    simp only [List.length_cons] at hle
    exact Digest.countsFit_of_length _ (by omega)
  have halike := (Digest.alike_iff_calls_eq (hcounts hmessage) (hcounts hmessage')).mpr hcalls.2
  rwa [Digest.Alike] at halike

/-- What is reached stays within any list of callees that holds those of the requests and is
closed under calls. -/
lemma Reached.mem_of_closed {closed : List Callee}
    (hrequests : ∀ request ∈ requests, callees scope request.events ⊆ closed)
    (hclosed : ∀ callee ∈ closed, callees scope callee.body ⊆ closed) {levels : Nat}
    {origin : Origin} (h : Reached scope requests levels origin) :
    callees scope origin.events ⊆ closed ∧ ∀ callee, origin = .shared callee → callee ∈ closed := by
  induction h with
  | entity hrequest => exact ⟨hrequests _ hrequest, by simp⟩
  | shared _ hcallee ih =>
    have hmem := ih.1 hcallee
    exact ⟨hclosed _ hmem, fun _ heq => Origin.shared.inj heq ▸ hmem⟩

/-- No keys collide if none do in a list that is closed under calls. -/
lemma keysApart_of_closed (closed : List Callee)
    (hrequests : ∀ request ∈ requests, callees scope request.events ⊆ closed)
    (hclosed : ∀ callee ∈ closed, callees scope callee.body ⊆ closed)
    (hshort : ∀ message ∈ closed.map keyMessage, message.length < 2 ^ 61)
    (hdigests : ((closed.map keyMessage).map Digest.Sha256.evaluate).Nodup) :
    KeysApart scope requests := by
  refine .of_list ?_ hshort hdigests
  rintro _ ⟨callee, levels, hreached, rfl⟩
  exact List.mem_map_of_mem ((hreached.mem_of_closed hrequests hclosed).2 callee rfl)

/-! ## The scripts of a session -/

namespace Consistent

variable {session : Session} {tasks : List Task}

lemma symbols_eq (h : Consistent scope requests ⟨session, [], tasks⟩) :
    session.compiled.map Compiled.symbol = tasks.map Task.symbol := by
  rw [h.compiled, List.map_map]
  exact List.map_congr_left fun task _ => task.script_symbol scope session

lemma nodup_symbols (h : Consistent scope requests ⟨session, [], tasks⟩) :
    (session.compiled.map Compiled.symbol).Nodup := by
  rw [h.symbols_eq]
  exact h.nodup

variable {callee : Callee} {task : Task} {symbol : String}

section

variable (h : Consistent scope requests ⟨session, [], tasks⟩)

include h

lemma eq_of_symbol_eq {other : Task} (htask : task ∈ tasks) (hother : other ∈ tasks)
    (hsymbol : task.symbol = other.symbol) : task = other :=
  List.inj_on_of_nodup_map h.nodup htask hother hsymbol

lemma symbol?_eq_some_iff :
    session.symbol? callee = some symbol ↔
      ∃ other levels, ⟨.shared other, symbol, levels⟩ ∈ tasks ∧ other.key = callee.key :=
  h.table callee.key symbol

/-- Every call that a script keeps has a shared task. -/
lemma exists_called (htask : task ∈ tasks) (hcallee : callee ∈ task.calls scope) :
    ∃ other levels, ⟨.shared other, session.symbolOf callee, levels⟩ ∈ tasks ∧
      other.key = callee.key := by
  obtain ⟨symbol, hsymbol⟩ := h.resolved task htask callee hcallee
  rw [(Session.Grows.refl _).symbolOf_eq hsymbol]
  exact h.symbol?_eq_some_iff.mp hsymbol

/-- Calls have one symbol exactly when they have one key. -/
lemma symbolOf_eq_iff {other : Task} (htask : task ∈ tasks) (hother : other ∈ tasks)
    {callee' : Callee} (hcallee : callee ∈ task.calls scope)
    (hcallee' : callee' ∈ other.calls scope) :
    session.symbolOf callee = session.symbolOf callee' ↔ callee.key = callee'.key := by
  constructor
  · intro hsymbol
    obtain ⟨found, levels, hfound, hkey⟩ := h.exists_called htask hcallee
    obtain ⟨found', levels', hfound', hkey'⟩ := h.exists_called hother hcallee'
    have heq := h.eq_of_symbol_eq hfound hfound' hsymbol
    simp only [Task.mk.injEq, Origin.shared.injEq] at heq
    rw [← hkey, ← hkey', heq.1]
  · intro hkey
    rw [Session.symbolOf, Session.symbolOf, Session.symbol?, Session.symbol?, hkey]

lemma eq_of_key_eq {other : Callee} {symbol' : String} {levels levels' : Nat}
    (htask : ⟨.shared callee, symbol, levels⟩ ∈ tasks)
    (hother : ⟨.shared other, symbol', levels'⟩ ∈ tasks) (hkey : callee.key = other.key) :
    (⟨.shared callee, symbol, levels⟩ : Task) = ⟨.shared other, symbol', levels'⟩ := by
  have hsymbol := h.symbol?_eq_some_iff.mpr ⟨callee, levels, htask, hkey⟩
  have hsymbol' := h.symbol?_eq_some_iff.mpr ⟨other, levels', hother, rfl⟩
  exact h.eq_of_symbol_eq htask hother (Option.some.inj (hsymbol.symm.trans hsymbol'))

end

/-- The calls of a listing are those that its task keeps, in order. -/
lemma farCalls_eq (session : Session) (task : Task) :
    (task.script scope session).listing.filterMap Instruction.farCall? =
      (task.calls scope).map session.symbolOf := by
  obtain ⟨lines, htargets, hlines⟩ := task.exists_outline scope
  rw [hlines, Line.farCalls_fill, htargets]

lemma count_called (h : Consistent scope requests ⟨session, [], tasks⟩) {script : Compiled}
    (hscript : script ∈ session.compiled) (hsymbol : .callFar symbol ∈ script.listing) :
    (session.compiled.map Compiled.symbol).count symbol = 1 := by
  rw [h.compiled] at hscript
  obtain ⟨task, htask, rfl⟩ := List.mem_map.mp hscript
  have hcalled : symbol ∈ (task.script scope session).listing.filterMap Instruction.farCall? :=
    List.mem_filterMap.mpr ⟨_, hsymbol, rfl⟩
  rw [farCalls_eq] at hcalled
  obtain ⟨callee, hcallee, rfl⟩ := List.mem_map.mp hcalled
  obtain ⟨other, levels, hother, -⟩ := h.exists_called htask hcallee
  apply List.count_eq_one_of_mem h.nodup_symbols
  rw [h.symbols_eq]
  exact List.mem_map.mpr ⟨_, hother, rfl⟩

end Consistent

/-! ## The graph -/

/-- The scripts of a session are those of tasks, each of which can be reached, and their calls
form a closed graph in which the shared script of a call is compiled once. -/
structure CallGraph (scope : Scope) (requests : List Request) (session : Session)
    (tasks : List Task) : Prop where
  compiled : session.compiled = tasks.map (Task.script scope session)
  reached : ∀ task ∈ tasks, Reached scope requests task.levels task.origin
  /-- Nesting ends, also where custom events call each other. -/
  levels_le : ∀ task ∈ tasks, task.levels ≤ maxNesting
  /-- The symbols in the calls of a listing, in order, are those of its callees. -/
  farCalls : ∀ task ∈ tasks,
    (task.script scope session).listing.filterMap Instruction.farCall? =
      (task.calls scope).map session.symbolOf
  /-- Calls that are the same, and only those, have one symbol. -/
  symbolOf_eq_iff : ∀ task ∈ tasks, ∀ other ∈ tasks, ∀ callee ∈ task.calls scope,
    ∀ callee' ∈ other.calls scope,
      session.symbolOf callee = session.symbolOf callee' ↔ SameCall callee callee'
  /-- Every call has the script of a callee that is the same. -/
  closed : ∀ task ∈ tasks, ∀ callee ∈ task.calls scope, ∃ other levels,
    ⟨.shared other, session.symbolOf callee, levels⟩ ∈ tasks ∧ SameCall callee other
  /-- Callees that are the same have one script. -/
  once : ∀ callee symbol levels callee' symbol' levels',
    ⟨.shared callee, symbol, levels⟩ ∈ tasks → ⟨.shared callee', symbol', levels'⟩ ∈ tasks →
      SameCall callee callee' → symbol = symbol'

variable {session : Session} {tasks : List Task}

lemma Consistent.reached (h : Consistent scope requests ⟨session, [], tasks⟩) {task : Task}
    (htask : task ∈ tasks) :
    Reached scope requests task.levels task.origin :=
  (h.caused task htask).reached

/-- What a script keeps a call of can be reached. -/
lemma Consistent.reached_call (h : Consistent scope requests ⟨session, [], tasks⟩) {task : Task}
    (htask : task ∈ tasks) {callee : Callee} (hcallee : callee ∈ task.calls scope) :
    ∃ levels, Reached scope requests levels (.shared callee) := by
  obtain ⟨levels, hlevels, hmem⟩ := (Task.mem_calls scope).mp hcallee
  exact ⟨levels, .shared (hlevels ▸ h.reached htask) hmem⟩

lemma Consistent.callGraph (h : Consistent scope requests ⟨session, [], tasks⟩)
    (hkeys : KeysApart scope requests) :
    CallGraph scope requests session tasks where
  compiled := h.compiled
  reached _ := h.reached
  levels_le _ htask := (h.reached htask).levels_le
  farCalls task _ := farCalls_eq session task
  symbolOf_eq_iff task htask other hother callee hcallee callee' hcallee' := by
    obtain ⟨levels, hreached⟩ := h.reached_call htask hcallee
    obtain ⟨levels', hreached'⟩ := h.reached_call hother hcallee'
    rw [h.symbolOf_eq_iff htask hother hcallee hcallee', hkeys.key_eq_iff hreached hreached']
  closed task htask callee hcallee := by
    obtain ⟨other, levels, hother, hkey⟩ := h.exists_called htask hcallee
    obtain ⟨below, hreached⟩ := h.reached_call htask hcallee
    exact ⟨other, levels, hother, (hkeys.key_eq_iff hreached (h.reached hother)).mp hkey.symm⟩
  once callee symbol levels callee' symbol' levels' htask hother hsame := by
    have heq := h.eq_of_key_eq htask hother hsame.key_eq
    exact congrArg Task.symbol heq

/-- Scenes compile to scripts whose calls form a closed graph, with a script for every request that
is not skipped; no two scripts have one symbol, so their files never clash. -/
theorem compileScenes_callGraph (scope : Scope) (entries : List SceneEntry)
    (symbols : Symbol.Allocator) (hkeys : KeysApart scope (entries.flatMap (sceneRequests scope))) :
    let session := (compileScenes scope entries { symbols := symbols }).2
    (∃ tasks, CallGraph scope (entries.flatMap (sceneRequests scope)) session tasks ∧
        Answered (entries.flatMap (sceneRequests scope)) tasks) ∧
      (∀ script ∈ session.compiled, ∀ symbol, .callFar symbol ∈ script.listing →
        (session.compiled.map Compiled.symbol).count symbol = 1) ∧
      (session.compiled.map Compiled.symbol).Nodup ∧
      ∃ files, Source.FileSet.addFiles {} (session.compiled.flatMap Source.scriptFiles) =
        .ok files := by
  intro session
  obtain ⟨tasks, h, hanswered⟩ := exists_tasks_scenes scope (List.Perm.refl entries) symbols
  exact ⟨⟨tasks, h.callGraph hkeys, hanswered⟩, fun _ hscript _ => h.count_called hscript,
    h.nodup_symbols, _, Source.FileSet.addFiles_of_nodup (fun _ => Source.fits_scriptFiles)
      (Source.nodup_scriptFiles h.nodup_symbols)⟩

/-- A call of a custom event without arguments. -/
def plainCall (id : String) : Event where
  command := Command.callCustom
  args := [(calleeArgument, .string id)]

/-- A scope with nothing but custom events. -/
def plainScope (library : List Project.CustomEvent) : Scope where
  schema := .builtin
  library := library
  symbolFor? := fun _ _ => none
  aliases := []

/-- A scene with nothing but the script that starts it. -/
def plainEntry (id : String) (script : List Event) : SceneEntry where
  index := 0
  scene := { id := id, autoFadeSpeed := none, script := script }
  symbol := id
  name := id
  background := 0
  spriteMode := .tall
  playerSprite := none
  actors := []
  triggers := []
  sprites := []
  projectiles := []
  exclusive := []
  key := ⟨""⟩

/-- Two custom events that call each other. -/
def pingPong : List Project.CustomEvent :=
  [{ id := "ping", script := [plainCall "pong"] }, { id := "pong", script := [plainCall "ping"] }]

lemma keysApart_pingPong :
    KeysApart (plainScope pingPong)
      ([plainEntry "hall" [plainCall "ping"]].flatMap (sceneRequests (plainScope pingPong))) := by
  let ping : Callee := ⟨{ id := "ping", script := [plainCall "pong"] }, []⟩
  let pong : Callee := ⟨{ id := "pong", script := [plainCall "ping"] }, []⟩
  have hstart : callees (plainScope pingPong)
      (startRequest (plainScope pingPong) (plainEntry "hall" [plainCall "ping"])).events =
        [ping] := rfl
  have hhit : callees (plainScope pingPong)
      (playerHitRequest (plainEntry "hall" [plainCall "ping"])).events = [] := rfl
  have hping : callees (plainScope pingPong) ping.body = [pong] := rfl
  have hpong : callees (plainScope pingPong) pong.body = [ping] := rfl
  refine keysApart_of_closed [ping, pong] ?_ ?_ (by decide +kernel) (by decide +kernel)
  · show ∀ request ∈ [startRequest _ _, playerHitRequest _], _
    simp [hstart, hhit]
  · simp [hping, hpong]

/-- Scenes with custom events that call each other, for ever if nothing stopped them: each of the
two is compiled once, and calls the other. -/
theorem callGraph_pingPong :
    let scope := plainScope pingPong
    let requests := [plainEntry "hall" [plainCall "ping"]].flatMap (sceneRequests scope)
    let session := (compileScenes scope [plainEntry "hall" [plainCall "ping"]]
      { symbols := .empty }).2
    KeysApart scope requests ∧
      (∃ tasks, CallGraph scope requests session tasks ∧ Answered requests tasks) ∧
      session.compiled.map (fun script =>
          (script.symbol, script.listing.filterMap Instruction.farCall?)) =
        [("script_custom_1", ["script_custom_0"]), ("script_custom_0", ["script_custom_1"]),
          ("hall_init", ["script_custom_0"])] :=
  ⟨keysApart_pingPong, (compileScenes_callGraph _ _ _ keysApart_pingPong).1, by decide +kernel⟩

end Cartridge.Compile
