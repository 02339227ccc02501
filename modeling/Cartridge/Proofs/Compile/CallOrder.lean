import Mathlib.Data.List.Forall2
import Cartridge.Proofs.Compile.CallGraph

/-!
# Shared scripts and the order of scenes

A shared script is compiled where it is called first, and found there by all later calls.  The
table does not keep with how many levels left that was.  A script that is first called at the
last level is compiled without its calls, and stays so for callers that had levels left.

So the compiled bodies can depend on the order of the scenes.  Bodies are compared with the symbols
in their calls replaced by what they stand for, and two orders agree on them just when they cut the
same bodies (`hasBody_iff_iff_cutIn_iff`).  Where no script that has calls can be reached at the
last level, no body is cut and all orders agree.
-/

namespace Cartridge.Compile

open Cartridge.Json (Fields)
open Cartridge.Script
open Cartridge.Tables (SceneEntry)

variable {scope : Scope} {requests : List Request}

/-! ## Bodies -/

/-- No two callees that can be reached and differ in their custom event or in their arguments
have one key. -/
def KeysDistinct (scope : Scope) (requests : List Request) : Prop :=
  ∀ callee callee' levels levels', Reached scope requests levels (.shared callee) →
    Reached scope requests levels' (.shared callee') → callee.key = callee'.key →
      callee.signature = callee'.signature

/-- A line of a session's listing with the symbol of its call replaced by the custom event and the
arguments that it stands for. -/
inductive StandsFor (scope : Scope) (requests : List Request) (session : Session) :
    Instruction → Line (String × Fields) → Prop
  | plain {line} (h : line.farCall? = none) :
    StandsFor scope requests session line (.plain line h)
  | call {callee levels symbol} (hreached : Reached scope requests levels (.shared callee))
    (hsymbol : session.symbol? callee = some symbol) :
    StandsFor scope requests session (.callFar symbol) (.call callee.signature)

/-- The session has a shared script for a custom event and arguments, and its listing stands for
the lines. -/
def HasBody (scope : Scope) (requests : List Request) (session : Session)
    (signature : String × Fields) (lines : List (Line (String × Fields))) : Prop :=
  ∃ callee levels, Reached scope requests levels (.shared callee) ∧
    callee.signature = signature ∧ ∃ script ∈ session.compiled,
      session.symbol? callee = some script.symbol ∧
        List.Forall₂ (StandsFor scope requests session) script.listing lines

/-- The session has compiled a body without the calls in it. -/
def CutIn (scope : Scope) (session : Session) (callee : Callee) : Prop :=
  callees scope callee.body ≠ [] ∧ ∃ script ∈ session.compiled,
    session.symbol? callee = some script.symbol ∧
      script.listing.filterMap Instruction.farCall? = []

/-! ## Callees and their tasks -/

variable {levels : Nat} {callee : Callee}

lemma Reached.customEvent? (h : Reached scope requests levels (.shared callee)) :
    Project.customEvent? scope.library callee.custom.id = some callee.custom := by
  cases h with
  | shared _ hcallee => exact customEvent?_of_mem_callees hcallee

/-- What is reached is known by its custom event's id and its arguments. -/
lemma Reached.eq_of_signature_eq {callee' : Callee} {levels' : Nat}
    (h : Reached scope requests levels (.shared callee))
    (h' : Reached scope requests levels' (.shared callee'))
    (hsignature : callee.signature = callee'.signature) : callee = callee' := by
  have hparts := Prod.mk.inj hsignature
  have hcustom := h.customEvent?
  rw [hparts.1, h'.customEvent?] at hcustom
  exact Callee.ext (Option.some.inj hcustom).symm hparts.2

lemma KeysDistinct.eq (h : KeysDistinct scope requests) {callee' : Callee} {levels' : Nat}
    (hreached : Reached scope requests levels (.shared callee))
    (hreached' : Reached scope requests levels' (.shared callee'))
    (hkey : callee.key = callee'.key) : callee = callee' :=
  hreached.eq_of_signature_eq hreached' (h _ _ _ _ hreached hreached' hkey)

namespace Consistent

variable {session : Session} {tasks : List Task}

variable {callee : Callee} {levels : Nat}

section

variable (h : Consistent scope requests ⟨session, [], tasks⟩) (hkeys : KeysDistinct scope requests)
  (hreached : Reached scope requests levels (.shared callee))

include h hkeys hreached

lemma exists_levels {symbol : String} (hsymbol : session.symbol? callee = some symbol) :
    ∃ levels, ⟨.shared callee, symbol, levels⟩ ∈ tasks := by
  obtain ⟨other, below, hother, hkey⟩ := h.symbol?_eq_some_iff.mp hsymbol
  obtain rfl := hkeys.eq (h.reached hother) hreached hkey
  exact ⟨below, hother⟩

lemma script_iff {script : Compiled} :
    script ∈ session.compiled ∧ session.symbol? callee = some script.symbol ↔
      ∃ symbol levels, ⟨.shared callee, symbol, levels⟩ ∈ tasks ∧
        script = Task.script scope session ⟨.shared callee, symbol, levels⟩ := by
  constructor
  · rintro ⟨hscript, hsymbol⟩
    rw [h.compiled] at hscript
    obtain ⟨task, htask, rfl⟩ := List.mem_map.mp hscript
    obtain ⟨below, hbelow⟩ := h.exists_levels hkeys hreached hsymbol
    rw [Task.script_symbol] at hbelow
    have heq := h.eq_of_symbol_eq htask hbelow rfl
    exact ⟨_, below, hbelow, by rw [← heq]⟩
  · rintro ⟨symbol, below, hmem, rfl⟩
    rw [h.compiled]
    exact ⟨List.mem_map_of_mem hmem,
      h.symbol?_eq_some_iff.mpr ⟨callee, below, by rwa [Task.script_symbol], rfl⟩⟩

/-- A body is cut exactly when it has calls and its task had no level left. -/
lemma cutIn_iff :
    CutIn scope session callee ↔
      callees scope callee.body ≠ [] ∧ ∃ symbol, ⟨.shared callee, symbol, 0⟩ ∈ tasks := by
  refine and_congr_right fun hcalls => ?_
  constructor
  · rintro ⟨script, hscript, hsymbol, hnone⟩
    obtain ⟨symbol, below, hmem, rfl⟩ := (h.script_iff hkeys hreached).mp ⟨hscript, hsymbol⟩
    rw [farCalls_eq, List.map_eq_nil_iff] at hnone
    cases below with
    | zero => exact ⟨symbol, hmem⟩
    | succ below =>
      rw [Task.calls_of_levels_eq_succ scope rfl] at hnone
      exact absurd hnone hcalls
  · rintro ⟨symbol, hmem⟩
    obtain ⟨hscript, hsymbol⟩ := (h.script_iff hkeys hreached).mpr ⟨symbol, 0, hmem, rfl⟩
    refine ⟨_, hscript, hsymbol, ?_⟩
    rw [farCalls_eq, Task.calls_of_levels_eq_zero scope rfl, List.map_nil]

/-- Only what can be reached at the last level is cut. -/
lemma reached_of_cutIn (hcut : CutIn scope session callee) :
    Reached scope requests 0 (.shared callee) := by
  obtain ⟨-, symbol, hmem⟩ := (h.cutIn_iff hkeys hreached).mp hcut
  exact h.reached hmem

lemma farCalls_of_not_cutIn {script : Compiled} (hscript : script ∈ session.compiled)
    (hsymbol : session.symbol? callee = some script.symbol) (hcut : ¬CutIn scope session callee) :
    script.listing.filterMap Instruction.farCall? =
      (callees scope callee.body).map session.symbolOf := by
  obtain ⟨symbol, below, hmem, rfl⟩ := (h.script_iff hkeys hreached).mp ⟨hscript, hsymbol⟩
  rw [farCalls_eq]
  cases below with
  | succ below =>
    rw [Task.calls_of_levels_eq_succ scope rfl]
    rfl
  | zero =>
    have hcalls : callees scope callee.body = [] := by
      by_contra hcalls
      exact hcut ((h.cutIn_iff hkeys hreached).mpr ⟨hcalls, symbol, hmem⟩)
    rw [Task.calls_of_levels_eq_zero scope rfl, hcalls]

end

/-- Only shared scripts are compiled without a level left. -/
lemma eq_shared_of_levels_eq_zero (h : Consistent scope requests ⟨session, [], tasks⟩) {task : Task}
    (htask : task ∈ tasks) (hlevels : task.levels = 0) :
    ∃ callee symbol, task = ⟨.shared callee, symbol, 0⟩ := by
  cases h.caused task htask with
  | entity => exact absurd hlevels (by simp [maxNesting])
  | shared =>
    cases hlevels
    exact ⟨_, _, rfl⟩

/-! ## What a listing stands for -/

/-- A line stands for one thing only. -/
lemma rightUnique_standsFor (h : Consistent scope requests ⟨session, [], tasks⟩)
    (hkeys : KeysDistinct scope requests) :
    Relator.RightUnique (StandsFor scope requests session) := by
  intro line first second hfirst hsecond
  cases hfirst with
  | plain hline =>
    cases hsecond with
    | plain => rfl
    | call => exact absurd hline (by simp [Instruction.farCall?])
  | call hreached hsymbol =>
    cases hsecond with
    | plain hline => exact absurd hline (by simp [Instruction.farCall?])
    | call hreached' hsymbol' =>
      obtain ⟨levels, hmem⟩ := h.exists_levels hkeys hreached hsymbol
      obtain ⟨levels', hmem'⟩ := h.exists_levels hkeys hreached' hsymbol'
      have heq := h.eq_of_symbol_eq hmem hmem' rfl
      simp only [Task.mk.injEq, Origin.shared.injEq] at heq
      rw [heq.1]

end Consistent

lemma farCalls_eq_nil_of_standsFor {session : Session} {listing : List Instruction}
    {lines : List (Line (String × Fields))}
    (h : List.Forall₂ (StandsFor scope requests session) listing lines)
    (hnone : lines.filterMap Line.target? = []) :
    listing.filterMap Instruction.farCall? = [] := by
  induction h with
  | nil => rfl
  | cons hline _ ih =>
    cases hline with
    | plain hplain =>
      rw [List.filterMap_cons_none hplain]
      exact ih (by simpa [List.filterMap_cons] using hnone)
    | call => simp at hnone

namespace Consistent

variable {session : Session} {tasks : List Task}

lemma standsFor_outline (h : Consistent scope requests ⟨session, [], tasks⟩) {task : Task}
    (htask : task ∈ tasks) {lines : List (Line Callee)}
    (htargets : lines.filterMap Line.target? = task.calls scope) :
    List.Forall₂ (StandsFor scope requests session) (lines.map (Line.fill session.symbolOf))
      (lines.map (Line.map Callee.signature)) := by
  rw [List.forall₂_map_left_iff, List.forall₂_map_right_iff, List.forall₂_same]
  intro line hline
  cases line with
  | plain line h => exact .plain h
  | call callee =>
    have hmem : callee ∈ task.calls scope := by
      rw [← htargets]
      exact List.mem_filterMap.mpr ⟨_, hline, rfl⟩
    obtain ⟨levels, hreached⟩ := h.reached_call htask hmem
    obtain ⟨symbol, hsymbol⟩ := h.resolved task htask callee hmem
    rw [Line.fill_call, (Session.Grows.refl _).symbolOf_eq hsymbol]
    exact .call hreached hsymbol

end Consistent

/-! ## Two runs -/

section

variable {first second : Session} {tasks tasks' : List Task}

/-- What one run compiles, another one compiles too, unless it cuts a body that the first has not
cut. -/
lemma exists_task_of_caused (h : Consistent scope requests ⟨first, [], tasks⟩)
    (h' : Consistent scope requests ⟨second, [], tasks'⟩) (hanswered : Answered requests tasks')
    (hkeys : KeysDistinct scope requests)
    (hcut : ∀ callee levels, Reached scope requests levels (.shared callee) →
      CutIn scope second callee → CutIn scope first callee) {task : Task}
    (hcaused : Caused scope requests tasks task) :
    ∃ other ∈ tasks', other.origin = task.origin := by
  induction hcaused with
  | entity hrequest hskipped => exact hanswered _ hrequest hskipped
  | @shared caller callee symbol levels hcaller hlevels hcallee hmem ih =>
    obtain ⟨other, hother, horigin⟩ := ih
    suffices hkept : ∃ below, other.levels = below + 1 by
      have hcall : callee ∈ other.calls scope :=
        (Task.mem_calls scope).mpr (hkept.imp fun _ hbelow => ⟨hbelow, horigin ▸ hcallee⟩)
      obtain ⟨found, below, hfound, hkey⟩ := h'.exists_called hother hcall
      obtain rfl := hkeys.eq (h'.reached hfound) (h.reached hmem) hkey
      exact ⟨_, hfound, rfl⟩
    cases hbelow : other.levels with
    | succ below => exact ⟨below, rfl⟩
    | zero =>
      -- the other run cuts the caller, so the first one does too, but there it has a level left
      exfalso
      obtain ⟨owner, ownerSymbol, rfl⟩ := h'.eq_shared_of_levels_eq_zero hother hbelow
      have howner := h'.reached hother
      have hcalls : callees scope owner.body ≠ [] := by
        rw [← horigin] at hcallee
        exact List.ne_nil_of_mem hcallee
      have hfirst := hcut owner _ howner
        ((h'.cutIn_iff hkeys howner).mpr ⟨hcalls, ownerSymbol, hother⟩)
      obtain ⟨-, cutSymbol, hcutMem⟩ := (h.cutIn_iff hkeys howner).mp hfirst
      obtain ⟨origin, callerSymbol, callerLevels⟩ := caller
      obtain rfl : .shared owner = origin := horigin
      have heq := h.eq_of_key_eq hcutMem hcaller.mem rfl
      simp only [Task.mk.injEq] at heq
      exact absurd (heq.2.2.trans hlevels) (by simp)

variable {callee : Callee} {levels : Nat}

/-- Two runs that cut the same bodies keep the same calls of each. -/
lemma kept?_eq_of_cutIn_iff (h : Consistent scope requests ⟨first, [], tasks⟩)
    (h' : Consistent scope requests ⟨second, [], tasks'⟩) (hkeys : KeysDistinct scope requests)
    {symbol symbol' : String} {levels' : Nat} (hmem : ⟨.shared callee, symbol, levels⟩ ∈ tasks)
    (hmem' : ⟨.shared callee, symbol', levels'⟩ ∈ tasks')
    (hcut : CutIn scope first callee ↔ CutIn scope second callee) :
    ∀ event ∈ scriptCalls callee.body, kept? scope levels event = kept? scope levels' event := by
  have hreached := h.reached hmem
  rw [h.cutIn_iff hkeys hreached, h'.cutIn_iff hkeys hreached] at hcut
  by_cases hcalls : callees scope callee.body = []
  · -- no call has a callee, whether calls are kept or not
    intro event hevent
    have hnone := List.filterMap_eq_nil_iff.mp hcalls event hevent
    cases levels <;> cases levels' <;> simp [kept?, hnone]
  · have hzero : levels = 0 ↔ levels' = 0 := by
      simp only [ne_eq, hcalls, not_false_eq_true, true_and] at hcut
      constructor
      · rintro rfl
        obtain ⟨other, hother⟩ := hcut.mp ⟨symbol, hmem⟩
        exact congrArg Task.levels (h'.eq_of_key_eq hmem' hother rfl)
      · rintro rfl
        obtain ⟨other, hother⟩ := hcut.mpr ⟨symbol', hmem'⟩
        exact congrArg Task.levels (h.eq_of_key_eq hmem hother rfl)
    intro event _
    cases levels <;> cases levels' <;> simp_all [kept?]

/-- Tasks of a callee that keep the same calls have the same listing. -/
lemma listing_congr {symbol symbol' : String} {levels' : Nat}
    (h : ∀ event ∈ scriptCalls callee.body, kept? scope levels event = kept? scope levels' event)
    (session : Session) :
    (Task.script scope session ⟨.shared callee, symbol, levels⟩).listing =
      (Task.script scope session ⟨.shared callee, symbol', levels'⟩).listing := by
  have hcode : eventsCode scope (resolvedCall scope session levels) callee.body =
      eventsCode scope (resolvedCall scope session levels') callee.body := by
    rw [resolvedCall_eq, resolvedCall_eq]
    exact eventsCode_congr fun event hevent => by rw [namedCall, namedCall, h event hevent]
  exact congrArg (fun code => sharedListing (.comment _ :: code)) hcode

/-- The bodies of one run are those of another one that cuts the same. -/
lemma hasBody_of_hasBody (h : Consistent scope requests ⟨first, [], tasks⟩)
    (h' : Consistent scope requests ⟨second, [], tasks'⟩) (hanswered : Answered requests tasks')
    (hkeys : KeysDistinct scope requests)
    (hcut : ∀ callee levels, Reached scope requests levels (.shared callee) →
      (CutIn scope first callee ↔ CutIn scope second callee))
    {signature : String × Fields} {lines : List (Line (String × Fields))}
    (hbody : HasBody scope requests first signature lines) :
    HasBody scope requests second signature lines := by
  obtain ⟨callee, levels, hreached, rfl, script, hscript, hsymbol, hlines⟩ := hbody
  obtain ⟨symbol, below, hmem, rfl⟩ := (h.script_iff hkeys hreached).mp ⟨hscript, hsymbol⟩
  obtain ⟨⟨_, symbol', below'⟩, hmem', rfl⟩ := exists_task_of_caused h h' hanswered hkeys
    (fun c l hc => (hcut c l hc).mpr) (h.caused _ hmem)
  have hkept := kept?_eq_of_cutIn_iff h h' hkeys hmem hmem' (hcut callee levels hreached)
  have hcalls : Task.calls scope ⟨.shared callee, symbol', below'⟩ =
      Task.calls scope ⟨.shared callee, symbol, below⟩ :=
    (List.filterMap_congr hkept).symm
  -- the outline of the first listing is one of the second, with the same targets
  obtain ⟨outline, htargets, houtline⟩ := Task.exists_outline scope ⟨.shared callee, symbol, below⟩
  rw [houtline] at hlines
  obtain rfl := (h.rightUnique_standsFor hkeys).forall₂ hlines (h.standsFor_outline hmem htargets)
  obtain ⟨hscript', hsymbol'⟩ :=
    (h'.script_iff hkeys hreached).mpr ⟨symbol', below', hmem', rfl⟩
  refine ⟨callee, levels, hreached, rfl, _, hscript', hsymbol', ?_⟩
  rw [← listing_congr hkept, houtline]
  exact h'.standsFor_outline hmem' (htargets.trans hcalls.symm)

/-- Runs with the same bodies cut the same. -/
lemma cutIn_of_hasBody (h : Consistent scope requests ⟨first, [], tasks⟩)
    (hkeys : KeysDistinct scope requests)
    (hbodies : ∀ signature lines, HasBody scope requests first signature lines →
      HasBody scope requests second signature lines)
    (hreached : Reached scope requests levels (.shared callee)) (hcut : CutIn scope first callee) :
    CutIn scope second callee := by
  obtain ⟨hcalls, symbol, hmem⟩ := (h.cutIn_iff hkeys hreached).mp hcut
  obtain ⟨outline, htargets, houtline⟩ := Task.exists_outline scope ⟨.shared callee, symbol, 0⟩
  obtain ⟨hscript, hsymbol⟩ := (h.script_iff hkeys hreached).mpr ⟨symbol, 0, hmem, rfl⟩
  have hlines := h.standsFor_outline hmem htargets
  rw [← houtline] at hlines
  obtain ⟨other, below, hother, hsignature, script, hscript', hsymbol', hlines'⟩ :=
    hbodies _ _ ⟨callee, levels, hreached, rfl, _, hscript, hsymbol, hlines⟩
  obtain rfl := hother.eq_of_signature_eq hreached hsignature
  refine ⟨hcalls, script, hscript', hsymbol', farCalls_eq_nil_of_standsFor hlines' ?_⟩
  rw [Line.targets_map, htargets, Task.calls_of_levels_eq_zero scope rfl, List.map_nil]

/-- Two complete runs have the same bodies exactly when they cut the same. -/
lemma hasBody_iff_iff_cutIn_iff (h : Consistent scope requests ⟨first, [], tasks⟩)
    (h' : Consistent scope requests ⟨second, [], tasks'⟩) (hanswered : Answered requests tasks)
    (hanswered' : Answered requests tasks') (hkeys : KeysDistinct scope requests) :
    (∀ signature lines, HasBody scope requests first signature lines ↔
        HasBody scope requests second signature lines) ↔
      ∀ callee levels, Reached scope requests levels (.shared callee) →
        (CutIn scope first callee ↔ CutIn scope second callee) := by
  constructor
  · intro hbodies callee levels hreached
    exact ⟨cutIn_of_hasBody h hkeys (fun s l => (hbodies s l).mp) hreached,
      cutIn_of_hasBody h' hkeys (fun s l => (hbodies s l).mpr) hreached⟩
  · intro hcut signature lines
    exact ⟨hasBody_of_hasBody h h' hanswered' hkeys hcut,
      hasBody_of_hasBody h' h hanswered hkeys fun c l hc => (hcut c l hc).symm⟩

end

/-- Whether the order of scenes shows in the compiled bodies: it does just where one order cuts a
body that another one does not.  A body that is not cut has all its calls, and nothing is cut
where scripts at the last level have no calls. -/
theorem bodies_eq_iff (scope : Scope) {entries entries' : List SceneEntry}
    (hperm : entries.Perm entries') (symbols symbols' : Symbol.Allocator)
    (hkeys : KeysDistinct scope (entries.flatMap (sceneRequests scope))) :
    let requests := entries.flatMap (sceneRequests scope)
    let first := (compileScenes scope entries { symbols := symbols }).2
    let second := (compileScenes scope entries' { symbols := symbols' }).2
    ((∀ signature lines, HasBody scope requests first signature lines ↔
        HasBody scope requests second signature lines) ↔
      ∀ callee levels, Reached scope requests levels (.shared callee) →
        (CutIn scope first callee ↔ CutIn scope second callee)) ∧
    (∀ callee levels, Reached scope requests levels (.shared callee) →
      ∀ script ∈ first.compiled, first.symbol? callee = some script.symbol →
        ¬CutIn scope first callee →
          script.listing.filterMap Instruction.farCall? =
            (callees scope callee.body).map first.symbolOf) ∧
    ((∀ callee, Reached scope requests 0 (.shared callee) → callees scope callee.body = []) →
      ∀ signature lines, HasBody scope requests first signature lines ↔
        HasBody scope requests second signature lines) := by
  intro requests first second
  obtain ⟨tasks, h, hanswered⟩ := exists_tasks_scenes scope (List.Perm.refl entries) symbols
  obtain ⟨tasks', h', hanswered'⟩ := exists_tasks_scenes scope hperm symbols'
  have hiff := hasBody_iff_iff_cutIn_iff h h' hanswered hanswered' hkeys
  refine ⟨hiff, fun callee levels hreached script hscript hsymbol =>
    h.farCalls_of_not_cutIn hkeys hreached hscript hsymbol, fun hlast => hiff.mpr ?_⟩
  intro callee levels hreached
  constructor
  · exact fun hcut => absurd (hlast callee (h.reached_of_cutIn hkeys hreached hcut)) hcut.1
  · exact fun hcut => absurd (hlast callee (h'.reached_of_cutIn hkeys hreached hcut)) hcut.1

/-! ## A ring of five calls -/

lemma keysDistinct_of_closed (closed : List Callee)
    (hrequests : ∀ request ∈ requests, callees scope request.events ⊆ closed)
    (hclosed : ∀ callee ∈ closed, callees scope callee.body ⊆ closed)
    (hkeys : (closed.map Callee.key).Nodup) : KeysDistinct scope requests := by
  intro callee callee' levels levels' hreached hreached' hkey
  have hmem := (hreached.mem_of_closed hrequests hclosed).2 callee rfl
  have hmem' := (hreached'.mem_of_closed hrequests hclosed).2 callee' rfl
  rw [List.inj_on_of_nodup_map hkeys hmem hmem' hkey]

/-- A custom event that calls another one. -/
def link (id next : String) : Project.CustomEvent where
  id := id
  script := [plainCall next]

/-- Custom events that call each other in a ring. -/
def ring : List Project.CustomEvent :=
  [link "1" "2", link "2" "3", link "3" "4", link "4" "5", link "5" "1"]

/-- A scene from which the last event of the ring is five levels deep. -/
def deepEntry : SceneEntry := plainEntry "deep" [plainCall "1"]

/-- A scene that calls the last event of the ring itself. -/
def shallowEntry : SceneEntry := plainEntry "shallow" [plainCall "5"]

/-- The requests of both scenes. -/
def ringRequests : List Request :=
  [deepEntry, shallowEntry].flatMap (sceneRequests (plainScope ring))

lemma keysDistinct_ring : KeysDistinct (plainScope ring) ringRequests := by
  let links : List Callee := ring.map fun custom => ⟨custom, []⟩
  have hrequests : ringRequests.map (fun request => callees (plainScope ring) request.events) =
      [links.take 1, [], links.drop 4, []] := rfl
  have hlinks : links.map (fun callee => callees (plainScope ring) callee.body) =
      [(links.drop 1).take 1, (links.drop 2).take 1, (links.drop 3).take 1, links.drop 4,
        links.take 1] := rfl
  have hrequests' : ∀ request ∈ ringRequests,
      callees (plainScope ring) request.events ⊆ links := by
    rw [← List.forall_mem_map (P := fun called => called ⊆ links), hrequests]
    simp [links, ring]
  have hlinks' : ∀ callee ∈ links, callees (plainScope ring) callee.body ⊆ links := by
    rw [← List.forall_mem_map (P := fun called => called ⊆ links), hlinks]
    simp [links, ring]
  exact keysDistinct_of_closed links hrequests' hlinks' (by decide +kernel)

/-- The session after two scenes. -/
def ringSession (order : List SceneEntry) : Session :=
  (compileScenes (plainScope ring) order { symbols := .empty }).2

lemma cutIn_ring :
    CutIn (plainScope ring) (ringSession [deepEntry, shallowEntry]) ⟨link "5" "1", []⟩ ∧
      ¬CutIn (plainScope ring) (ringSession [shallowEntry, deepEntry]) ⟨link "5" "1", []⟩ := by
  have hcalls : callees (plainScope ring) (Callee.body ⟨link "5" "1", []⟩) ≠ [] :=
    List.cons_ne_nil _ _
  simp only [CutIn, ne_eq, hcalls, not_false_eq_true, true_and]
  decide +kernel

/-- With the deep scene first, the last event of the ring is compiled without its call; with the
shallow scene first it has the call. -/
theorem bodies_ring_depend_on_order :
    ¬∀ signature lines,
      HasBody (plainScope ring) ringRequests (ringSession [deepEntry, shallowEntry])
          signature lines ↔
        HasBody (plainScope ring) ringRequests (ringSession [shallowEntry, deepEntry])
          signature lines := by
  intro hbodies
  obtain ⟨tasks, h, -⟩ := exists_tasks_scenes (plainScope ring)
    (List.Perm.refl [deepEntry, shallowEntry]) .empty
  have hscene : Reached (plainScope ring) ringRequests maxNesting
      (.entity (startRequest (plainScope ring) shallowEntry)) :=
    .entity (by simp [ringRequests, sceneRequests])
  have hreached : Reached (plainScope ring) ringRequests 4 (.shared ⟨link "5" "1", []⟩) :=
    .shared hscene List.mem_cons_self
  exact cutIn_ring.2 (cutIn_of_hasBody h keysDistinct_ring (fun s l => (hbodies s l).mp) hreached
    cutIn_ring.1)

/-- The two orders of the ring's scenes, where the bodies differ because the cuts do. -/
theorem bodies_eq_iff_ring :
    [deepEntry, shallowEntry].Perm [shallowEntry, deepEntry] ∧
      KeysDistinct (plainScope ring) ringRequests ∧
      ((∀ signature lines,
        HasBody (plainScope ring) ringRequests (ringSession [deepEntry, shallowEntry])
            signature lines ↔
          HasBody (plainScope ring) ringRequests (ringSession [shallowEntry, deepEntry])
            signature lines) ↔
        ∀ callee levels, Reached (plainScope ring) ringRequests levels (.shared callee) →
          (CutIn (plainScope ring) (ringSession [deepEntry, shallowEntry]) callee ↔
            CutIn (plainScope ring) (ringSession [shallowEntry, deepEntry]) callee)) :=
  ⟨.swap _ _ _, keysDistinct_ring,
    (bodies_eq_iff (plainScope ring) (.swap _ _ _) .empty .empty keysDistinct_ring).1⟩

end Cartridge.Compile
