import Cartridge.Proofs.Compile.Consistency
import Cartridge.Proofs.Source.Reserved

/-!
# The symbols of scripts

Every task has a symbol that was handed out for it: the script of an entity is an object whose name
ends with the word of its role, a shared script has a numbered name.  `Provided` says that the tasks
hold exactly what was handed out since compiling began.  Each move keeps it, so it holds after any
scenes (`exists_provided_scenes`), and the families of the scripts have no name in common with each
other or with what was handed out before.

From the last words of the names it follows that a script is called like a file of the generator in
one case only (`Task.symbol_eq_of_mem_reservedStems`).
-/

namespace Cartridge.Compile

open Cartridge.Script
open Cartridge.Symbol
open Cartridge.Symbol.Allocator (Hands)
open Cartridge.Source (reservedStems fixedStems)
open Cartridge.Tables (SceneEntry)

/-! ## What was handed out -/

namespace Task

/-- What the symbol of a task is asked for. -/
def demand (task : Task) : Demand :=
  match task.origin with
  | .entity request => .object (request.entitySymbol ++ "_" ++ request.role.code) "script"
  | .shared _ => .shared

/-- The names that are taken for a task. -/
def taken (task : Task) : List String :=
  task.demand.taken task.symbol

lemma symbol_mem_taken (task : Task) : task.symbol ∈ task.taken := by
  obtain ⟨origin, symbol, levels⟩ := task
  cases origin <;> exact List.mem_cons_self

lemma nodup_taken (task : Task) : task.taken.Nodup := by
  obtain ⟨origin, symbol, levels⟩ := task
  cases origin with
  | entity request => exact nodup_family symbol
  | shared callee => exact List.nodup_singleton symbol

end Task

/-- The tasks hold what was handed out since the names were those of `first`. -/
structure Provided (first : Allocator) (p : Progress) : Prop where
  hands : Hands first (p.tasks.map Task.taken) p.session.symbols
  found : ∀ task ∈ p.tasks, ∃ a, task.demand.Found a task.symbol

namespace Provided

variable {first : Allocator} {scope : Scope} {requests : List Request}

/-- A task that gets the symbol it asks for. -/
lemma grant {session later : Session} {pending finished : List Task} {task : Task}
    (h : Provided first ⟨session, pending, finished⟩)
    (hsymbol : task.symbol = (task.demand.answer session.symbols).1)
    (hlater : later.symbols = (task.demand.answer session.symbols).2) :
    Provided first ⟨later, task :: pending, finished⟩ := by
  have hanswer := session.symbols.hands_answer task.demand
  rw [← hsymbol, ← hlater] at hanswer
  constructor
  case hands =>
    rw [tasks_cons session]
    exact (h.hands.append hanswer).perm (List.perm_append_singleton _ _)
  case found =>
    rw [tasks_cons session, List.forall_mem_cons]
    refine ⟨⟨session.symbols, ?_⟩, h.found⟩
    rw [hsymbol]
    exact task.demand.found_answer session.symbols

lemma of_move {p q : Progress} (h : Provided first p) (hmove : Move scope requests p q) :
    Provided first q := by
  cases hmove with
  | warn => exact ⟨h.hands, h.found⟩
  | begin => exact h.grant rfl rfl
  | enter => exact h.grant rfl rfl
  | @finish session task rest finished hcalls =>
    have hperm := Consistent.perm_finish session (session.add (task.script scope session)) task rest
      finished
    exact ⟨h.hands.perm (hperm.map Task.taken).symm,
      fun other hother => h.found other (hperm.mem_iff.mp hother)⟩

lemma of_moves {p q : Progress} (h : Provided first p) (hmoves : Moves scope requests p q) :
    Provided first q := by
  induction hmoves with
  | refl => exact h
  | tail _ hmove ih => exact ih.of_move hmove

lemma init (first : Allocator) : Provided first ⟨{ symbols := first }, [], []⟩ where
  hands := .nil first
  found := by simp [Progress.tasks]

end Provided

/-- The scripts of scenes are those of tasks with what was handed out. -/
lemma exists_provided_scenes (scope : Scope) (entries : List SceneEntry) (first : Allocator) :
    ∃ tasks : List Task,
      (compileScenes scope entries { symbols := first }).2.compiled.map Compiled.symbol =
        tasks.map Task.symbol ∧
      Provided first ⟨(compileScenes scope entries { symbols := first }).2, [], tasks⟩ := by
  rw [compileScenes_snd]
  obtain ⟨tasks, hmoves, -⟩ := @moves_compileAll scope (entries.flatMap (sceneRequests scope)) _
    (List.Subset.refl _) { symbols := first } []
  refine ⟨tasks, ?_, (Provided.init first).of_moves hmoves⟩
  have hconsistent := (Consistent.init scope _ first).of_moves hmoves
  rw [hconsistent.compiled, List.map_map]
  exact List.map_congr_left fun task _ => task.script_symbol scope _

/-! ## Scripts and the generator's own names -/

/-- The last word of a script's symbol. -/
def Role.word : Role → String
  | .init => "init"
  | .playerHit => "hit1"
  | .interact => "interact"
  | .update => "update"

lemma Role.isLowerWord (role : Role) : IsLowerWord role.word.toList := by
  cases role <;> exact ⟨by decide, by decide, by decide⟩

lemma Role.exists_front (role : Role) (text : String) :
    ∃ front, text ++ "_" ++ role.code = front ++ "_" ++ role.word := by
  cases role with
  | playerHit =>
    refine ⟨text ++ "_p", ?_⟩
    simp only [code, word, String.append_assoc]
    rfl
  | _ => exact ⟨text, rfl⟩

/-- The symbol of a script that an entity runs ends with the word of its role, maybe with a number
behind it; a shared script has a number only. -/
lemma Task.symbol_cases {task : Task} (hfound : ∃ a, task.demand.Found a task.symbol) :
    (∃ n, task.symbol = Allocator.numbered "script_custom" n) ∨
      ∃ role : Role, lastWord task.symbol.toList = role.word.toList ∨
        ∃ base n, task.symbol = Allocator.numbered base n ∧
          lastWord base.toList = role.word.toList := by
  obtain ⟨origin, symbol, levels⟩ := task
  obtain ⟨a, hfound⟩ := hfound
  cases origin with
  | shared callee =>
    obtain ⟨n, -, rfl⟩ := hfound
    exact .inl ⟨n, rfl⟩
  | entity request =>
    obtain ⟨front, hfront⟩ := request.role.exists_front request.entitySymbol
    have hobject : (Demand.object (request.entitySymbol ++ "_" ++ request.role.code) "script").Found
      a symbol := hfound
    rw [hfront] at hobject
    exact .inr ⟨request.role, hobject.lastWord request.role.isLowerWord⟩

/-- A script is called like a file of the generator in one case only. -/
lemma Task.symbol_eq_of_mem_reservedStems {task : Task} {tables : Tables}
    (hfound : ∃ a, task.demand.Found a task.symbol) (h : task.symbol ∈ reservedStems tables) :
    task.symbol = "script_engine_init" := by
  have hwords : ∀ role : Role, ¬role.word.toList.all Char.isDigit = true ∧
      (∀ stem ∈ fixedStems, lastWord stem.toList = role.word.toList →
        stem = "script_engine_init") ∧
      lastWord "palette".toList ≠ role.word.toList ∧
      lastWord "avatar_font".toList ≠ role.word.toList := by
    intro role
    cases role <;> decide
  rcases Task.symbol_cases hfound with ⟨n, hshared⟩ | ⟨role, hword | ⟨base, n, hnumbered, hword⟩⟩
  · rw [hshared] at h
    exact absurd h (Source.sharedName_not_mem_reservedStems n tables)
  · have hdigits := (hwords role).1
    exact (hwords role).2.1 _ (Source.mem_fixedStems_of_lastWord (hword ▸ hdigits) h) hword
  · -- a number behind the name leaves a word of the role before it
    rw [hnumbered] at h
    rcases Source.base_of_numbered_mem_reservedStems h with rfl | rfl
    · exact absurd hword (hwords role).2.2.1
    · exact absurd hword (hwords role).2.2.2

/-- No script is called like the pictures of a font. -/
lemma Task.lastWord_ne_bitmaps {task : Task} (hfound : ∃ a, task.demand.Found a task.symbol) :
    lastWord task.symbol.toList ≠ "bitmaps".toList := by
  have hroles : ∀ role : Role, role.word.toList ≠ "bitmaps".toList := by
    intro role
    cases role <;> decide
  have hnumbers : ∀ base n, lastWord (Allocator.numbered base n).toList ≠ "bitmaps".toList := by
    intro base n hword
    have hdigits := Source.isDigit_lastWord_numbered base n
    rw [hword] at hdigits
    exact absurd hdigits (by decide)
  rcases Task.symbol_cases hfound with ⟨n, hshared⟩ | ⟨role, hword | ⟨base, n, hnumbered, -⟩⟩
  · exact hshared ▸ hnumbers _ n
  · exact fun heq => hroles role (hword.symm.trans heq)
  · exact hnumbered ▸ hnumbers base n

end Cartridge.Compile
