import Cartridge.Compile.Basic
import Cartridge.Proofs.Compile.Coverage
import Cartridge.Proofs.Source.Aliases
import Cartridge.Proofs.Usage.Mentions

/-!
# Variables of the whole game

Two readings decide what becomes of an argument that stands for a variable.  Before anything is
compiled, the walk over the scenes collects the variables that arguments name (`NamesVariable`);
those of the whole game get a name in the file of globals.  When a listing is printed, an argument
is read again to find the variable it is printed as (`printedId?`), and a variable without a name in
the file is printed as a local one.

The readings differ.  Printing takes an object of type `variable` under any argument and with any
value for a variable; the walk takes it for one only where the argument is declared to name a
variable, and only when the value is a text (`namesVariable_iff_isRead`).  What follows is that a
variable of the whole game is printed under its name in the file exactly when some event that is
visited names it, and otherwise as a local variable that the file does not define (`PrintsGlobal`).
-/

namespace Cartridge.Compile

open Cartridge.Files (FileTree)
open Cartridge.Json
open Cartridge.Project
open Cartridge.Script
open Cartridge.Source (DefinesVariable)
open Cartridge.Symbol.Allocator (Tagged)
open Cartridge.Tables (TakenFrom)

/-! ## The reading of listings -/

/-- The id in an object that stands for a variable. -/
def idText : Value → String
  | .string id => id
  | other => other.compact

/-- The variable that an argument is printed as. -/
def printedId? (schema : Schema) (command : String) (arg : String × Value) : Option String :=
  match arg.2 with
  | .string text => if schema.kind? command arg.1 = some .variable then some text else none
  | .number n => if schema.kind? command arg.1 = some .variable then some n.text else none
  | .object fields =>
    if isVariableObject fields then (Fields.get? fields "value").map idText else none
  | _ => none

variable {id command : String} {arg : String × Value} {schema : Schema} {project : Project}

lemma argumentText_of_printedId? {scope : Scope} (h : printedId? scope.schema command arg = some id)
    :
    argumentText scope command arg.1 arg.2 = variableName scope id := by
  obtain ⟨name, value⟩ := arg
  cases value with
  | string text =>
    simp only [printedId?, argumentText] at h ⊢
    split_ifs at h with hkind
    rw [hkind, Option.some.inj h]
  | number n =>
    simp only [printedId?, argumentText] at h ⊢
    split_ifs at h with hkind
    rw [if_pos hkind, Option.some.inj h]
  | object fields =>
    simp only [printedId?, argumentText] at h ⊢
    split_ifs at h with hobject
    obtain ⟨value, hvalue, rfl⟩ := Option.map_eq_some_iff.mp h
    rw [hobject, hvalue]
    cases value <;> rfl
  | _ => cases h

/-- An argument that is printed as no variable does not depend on the names of variables. -/
lemma argumentText_of_printedId?_eq_none {scope : Scope}
    (h : printedId? scope.schema command arg = none) (aliases : List (String × String)) :
    argumentText { scope with aliases := aliases } command arg.1 arg.2 =
      argumentText scope command arg.1 arg.2 := by
  obtain ⟨name, value⟩ := arg
  cases value with
  | string text =>
    simp only [printedId?, argumentText] at h ⊢
    split_ifs at h with hkind
    rcases hfound : scope.schema.kind? command name with _ | kind
    · rfl
    · cases kind <;> first | rfl | exact absurd hfound hkind
  | number n =>
    simp only [printedId?, argumentText] at h ⊢
    split_ifs at h with hkind
    rw [if_neg hkind, if_neg hkind]
  | object fields =>
    simp only [printedId?, argumentText] at h ⊢
    split_ifs at h with hobject
    · rw [hobject, Option.map_eq_none_iff.mp h]
    · rw [Bool.not_eq_true] at hobject
      rw [hobject]
  | _ => rfl

/-! ## The reading of the walk -/

/-- An argument names a variable for the walk.  The entries of a list of references name what they
say they do. -/
inductive NamesVariable (schema : Schema) (command : String) : String × Value → String → Prop
  | text {name id} (hname : name ≠ "references")
    (hkind : schema.kind? command name = some .variable) :
    NamesVariable schema command (name, .string id) id
  | number {name n} (hname : name ≠ "references")
    (hkind : schema.kind? command name = some .variable) :
    NamesVariable schema command (name, .number n) n.text
  | object {name fields id} (hname : name ≠ "references")
    (hkind : schema.kind? command name = some .variable)
    (htype : isVariableObject fields = true)
    (hvalue : Fields.get? fields "value" = some (.string id)) :
    NamesVariable schema command (name, .object fields) id
  | listed {entries entry id} (hentry : entry ∈ entries)
    (htype : entry.field? "type" = some (.string "variable"))
    (hid : entry.field? "id" = some (.string id)) :
    NamesVariable schema command ("references", .array entries) id

lemma isVariableObject_iff {fields : Fields} :
    isVariableObject fields = true ↔ Fields.get? fields "type" = some (.string "variable") := by
  rw [isVariableObject, beq_iff_eq, bind_string?_eq_some]

lemma names_variable_iff :
    Names schema command .variable arg id ↔ NamesVariable schema command arg id := by
  constructor
  · intro h
    cases h with
    | text hname hkind => exact .text hname hkind
    | number hname hkind => exact .number hname hkind
    | object hname hkind _ htype hvalue =>
      exact .object hname hkind (isVariableObject_iff.mpr htype) hvalue
    | listed hentry htype hid => exact .listed hentry htype hid
  · intro h
    cases h with
    | text hname hkind => exact .text hname hkind
    | number hname hkind => exact .number hname hkind rfl
    | object hname hkind htype hvalue =>
      exact .object hname hkind rfl (isVariableObject_iff.mp htype) hvalue
    | listed hentry htype hid => exact .listed hentry htype hid

/-- An argument that is printed as a variable is in a place where the walk reads it. -/
def IsRead (schema : Schema) (command : String) (arg : String × Value) : Prop :=
  arg.1 ≠ "references" ∧ schema.kind? command arg.1 = some .variable ∧
    ∀ fields, arg.2 = .object fields → ∃ id, Fields.get? fields "value" = some (.string id)

/-- The two readings of an argument agree exactly where the walk reads it. -/
lemma namesVariable_iff_isRead (h : printedId? schema command arg = some id) :
    NamesVariable schema command arg id ↔ IsRead schema command arg := by
  constructor
  · intro hnames
    cases hnames with
    | text hname hkind => exact ⟨hname, hkind, by simp⟩
    | number hname hkind => exact ⟨hname, hkind, by simp⟩
    | object hname hkind htype hvalue =>
      refine ⟨hname, hkind, ?_⟩
      rintro _ ⟨⟩
      exact ⟨_, hvalue⟩
    | listed => cases h
  · rintro ⟨hname, hkind, hobject⟩
    obtain ⟨name, value⟩ := arg
    cases value with
    | string text =>
      simp only [printedId?, if_pos hkind, Option.some.injEq] at h
      exact h ▸ .text hname hkind
    | number n =>
      simp only [printedId?, if_pos hkind, Option.some.injEq] at h
      exact h ▸ .number hname hkind
    | object fields =>
      obtain ⟨given, hgiven⟩ := hobject fields rfl
      simp only [printedId?, hgiven] at h
      split_ifs at h with htype
      cases h
      exact .object hname hkind htype hgiven
    | _ => cases h

/-! ## Used variables -/

/-- Some event that the walk over the scenes visits names the variable. -/
def UsesVariable (project : Project) (schema : Schema) (id : String) : Prop :=
  id ≠ "" ∧ ∃ depth event, Visited project depth event ∧
    ∃ arg ∈ event.args, NamesVariable schema event.command arg id

lemma mem_ofProject_of_mem_ofArgument {owner : Owner} {visit : Visit} {mention : Mention}
    (hvisit : (owner, visit) ∈ walkScenes project.customEvents maxNesting project.scenes)
    (harg : arg ∈ visit.event.args)
    (hmention : mention ∈ Mention.ofArgument schema visit.event.command owner.id arg)
    (hid : mention.id ≠ "") : mention ∈ Mention.ofProject project schema := by
  refine List.mem_filter.mpr ⟨?_, by simpa using hid⟩
  refine List.mem_append_left _ (List.mem_append_left _ (List.mem_flatMap.mpr ⟨_, hvisit, ?_⟩))
  exact List.mem_append_left _ (List.mem_flatMap.mpr ⟨arg, harg, hmention⟩)

/-- Scenes and settings mention no variables, so those that are mentioned come from events. -/
lemma exists_mention_iff :
    (∃ mention ∈ Mention.ofProject project schema, mention.kind = .variable ∧ mention.id = id) ↔
      UsesVariable project schema id := by
  constructor
  · rintro ⟨⟨kind, _, who⟩, hmention, rfl, rfl⟩
    obtain ⟨hid, hrefers⟩ := (Mention.mem_ofProject_iff (by simp) (by simp)).mp hmention
    cases hrefers with
    | @event scene owner slot depth event arg _ _ hscene howner hslot hevent harg hnames =>
      have hvisit := mem_walkScenes_iff.mpr ⟨scene, hscene, howner, slot, hslot, hevent⟩
      exact ⟨hid, depth, event, ⟨owner, hvisit⟩, arg, harg, names_variable_iff.mp hnames⟩
  · rintro ⟨hid, depth, event, ⟨owner, hvisit⟩, arg, harg, hnames⟩
    have hargument : ⟨.variable, id, owner.id⟩ ∈
        Mention.ofArgument schema event.command owner.id arg :=
      Mention.mem_ofArgument_iff.mpr ⟨rfl, names_variable_iff.mpr hnames⟩
    exact ⟨_, mem_ofProject_of_mem_ofArgument hvisit harg hargument hid, rfl, rfl⟩

/-- The used variables are those of the whole game that visited events name. -/
lemma mem_vars_iff :
    id ∈ (Usage.ofProject project schema).vars ↔
      Usage.isGlobal project id = true ∧ UsesVariable project schema id := by
  have hvars : (Usage.ofProject project schema).vars =
      Usage.usedVariables project (Mention.ofProject project schema) := rfl
  rw [hvars, Usage.usedVariables, List.mem_filter, List.mem_eraseDups, List.mem_map, and_comm,
    ← exists_mention_iff]
  simp only [List.mem_filter, decide_eq_true_eq, and_assoc]

/-! ## Compiled projects -/

namespace Scripted

variable (scripted : Scripted) (input : Tables.Input)

/-- What the events of a compiled project refer to. -/
def scope : Scope :=
  scopeOf input scripted.tables scripted.aliases

/-- Lowering meets the event while the scenes of the project are compiled. -/
def Meets (event : Event) : Prop :=
  ∃ levels, Met (scripted.scope input)
    (scripted.tables.scenes.flatMap (sceneRequests (scripted.scope input))) levels event

/-- The text of an argument in the listings of a compiled project. -/
def textOf (event : Event) (arg : String × Value) : String :=
  argumentText (scripted.scope input) event.command arg.1 arg.2

end Scripted

lemma compileScripts_stages {input : Tables.Input} {reporter : Reporter} {tree : FileTree}
    {scripted : Scripted} (h : (compileScripts input reporter tree).result = .ok scripted) :
    ∃ symbols, (Tables.build input tree .empty).result = .ok (scripted.tables, symbols) ∧
      scripted.aliases = Source.variableAliases input.project scripted.tables.vars ∧
      scripted.scenes = (compileScenes (scripted.scope input) scripted.tables.scenes
        { symbols := symbols }).1 ∧
      scripted.scripts = (compileScenes (scripted.scope input) scripted.tables.scenes
        { symbols := symbols }).2.compiled := by
  unfold compileScripts at h
  simp only [Outcome.result_bind_eq_ok] at h
  obtain ⟨⟨tables, symbols⟩, htables, _, -, hscripts⟩ := h
  cases hscripts
  exact ⟨symbols, htables, rfl, rfl, rfl⟩

lemma compileScripts_eq_ok {input : Tables.Input} {reporter : Reporter} {tree : FileTree}
    {scripted : Scripted} (h : (compileScripts input reporter tree).result = .ok scripted) :
    scripted.aliases =
        Source.variableAliases input.project (Usage.ofProject input.project input.schema).vars ∧
      (∀ entry ∈ scripted.tables.scenes,
        ∃ scene ∈ input.project.scenes, TakenFrom scene entry) ∧
      ∃ symbols, scripted.scripts =
        (compileScenes (scripted.scope input) scripted.tables.scenes
          { symbols := symbols }).2.compiled := by
  obtain ⟨symbols, htables, haliases, -, hscripts⟩ := compileScripts_stages h
  obtain ⟨hvars, hscenes⟩ := Tables.takenFrom_build htables
  rw [hvars] at haliases
  exact ⟨haliases, hscenes, symbols, hscripts⟩

/-- The name of a local variable. -/
def localName (id : String) : String :=
  ".LOCAL_" ++ Text.upper (Symbol.identifier id)

lemma not_tagged_localName (id : String) : ¬Tagged "VAR" (localName id) := by
  have hchars : (localName id).toList =
      '.' :: ("LOCAL_" ++ Text.upper (Symbol.identifier id)).toList := by
    rw [localName, String.toList_append, String.toList_append]
    rfl
  rintro (heq | hstart)
  · rw [heq] at hchars
    exact absurd hchars (by simp)
  · rw [hchars] at hstart
    exact absurd hstart (by simp)

/-- How an argument that is printed as a variable of the whole game appears in listings. -/
structure PrintsGlobal (input : Tables.Input) (scripted : Scripted) (event : Event)
    (arg : String × Value) (id : String) : Prop where
  /-- The text depends on the variable alone. -/
  text_eq : scripted.textOf input event arg = variableName (scripted.scope input) id
  /-- The text is the name of the variable in the file of globals exactly when the variable is
  used. -/
  declared_iff :
    DefinesVariable input.project scripted.aliases id (scripted.textOf input event arg) ∧
      Tagged "VAR" (scripted.textOf input event arg) ↔ UsesVariable input.project input.schema id
  /-- Otherwise it is a local name, which the file defines for no variable. -/
  undeclared : ¬UsesVariable input.project input.schema id →
    scripted.textOf input event arg = localName id ∧
      ∀ other, ¬DefinesVariable input.project scripted.aliases other
        (scripted.textOf input event arg)
  /-- The walk and the listing agree on an argument exactly where the walk reads it. -/
  names_iff : NamesVariable input.schema event.command arg id ↔
    IsRead input.schema event.command arg
  /-- Where custom events are open, a variable that is read is used. -/
  used_of_read :
    (∀ custom ∈ input.project.customEvents, scriptIsOpen custom.script = true) → id ≠ "" →
      IsRead input.schema event.command arg → UsesVariable input.project input.schema id

section

variable {input : Tables.Input} {reporter : Reporter} {tree : FileTree} {scripted : Scripted}

variable {id : String}

/-- The table of a compiled project has the variables of the whole game that are used. -/
lemma get?_aliases_eq_none_iff (hok : (compileScripts input reporter tree).result = .ok scripted)
    (hglobal : Usage.isGlobal input.project id = true) :
    Fields.get? scripted.aliases id = none ↔ ¬UsesVariable input.project input.schema id := by
  rw [(compileScripts_eq_ok hok).1, Source.get?_variableAliases_eq_none, mem_vars_iff,
    and_iff_right hglobal]

lemma variableName_of_get?_eq_some {scope : Scope} {name : String}
    (h : Fields.get? scope.aliases id = some name) : variableName scope id = name := by
  rw [variableName, h]

lemma variableName_of_get?_eq_none {scope : Scope} (h : Fields.get? scope.aliases id = none) :
    variableName scope id = localName id := by
  rw [variableName, h]
  rfl

lemma tagged_of_definesVariable (hok : (compileScripts input reporter tree).result = .ok scripted)
    {name : String} (h : DefinesVariable input.project scripted.aliases id name) :
    Tagged "VAR" name := by
  rw [(compileScripts_eq_ok hok).1] at h
  exact Source.tagged_variableAliases (Source.definesVariable_iff.mp h)

/-- A met argument that the walk reads makes its variable used. -/
lemma usesVariable_of_meets (hok : (compileScripts input reporter tree).result = .ok scripted)
    (hopen : ∀ custom ∈ input.project.customEvents, scriptIsOpen custom.script = true)
    {event : Event} (hevent : scripted.Meets input event) {arg : String × Value}
    (harg : arg ∈ event.args) (hid : id ≠ "")
    (hnames : NamesVariable input.schema event.command arg id) :
    UsesVariable input.project input.schema id := by
  obtain ⟨levels, hmet⟩ := hevent
  obtain ⟨-, hscenes, -⟩ := compileScripts_eq_ok hok
  obtain ⟨depth, -, hvisited⟩ := hmet.visited hopen rfl hscenes
  exact ⟨hid, depth, event, hvisited, arg, harg, hnames⟩

lemma printsGlobal (hok : (compileScripts input reporter tree).result = .ok scripted)
    {event : Event} (hevent : scripted.Meets input event) {arg : String × Value}
    (harg : arg ∈ event.args) (hprinted : printedId? input.schema event.command arg = some id)
    (hglobal : Usage.isGlobal input.project id = true) :
    PrintsGlobal input scripted event arg id := by
  have htext : scripted.textOf input event arg = variableName (scripted.scope input) id :=
    argumentText_of_printedId? hprinted
  have hlocal : ¬UsesVariable input.project input.schema id →
      scripted.textOf input event arg = localName id := fun hunused =>
    htext.trans (variableName_of_get?_eq_none ((get?_aliases_eq_none_iff hok hglobal).mpr hunused))
  refine ⟨htext, ⟨fun hdeclared => ?_, fun hused => ?_⟩, fun hunused => ⟨hlocal hunused, ?_⟩,
    namesVariable_iff_isRead hprinted, fun hopen hid hread => ?_⟩
  · by_contra hunused
    rw [hlocal hunused] at hdeclared
    exact not_tagged_localName id hdeclared.2
  · cases hname : Fields.get? scripted.aliases id with
    | none => exact absurd hused ((get?_aliases_eq_none_iff hok hglobal).mp hname)
    | some name =>
      have hdefines : DefinesVariable input.project scripted.aliases id name :=
        Source.definesVariable_iff.mpr (Fields.mem_of_get?_eq_some hname)
      rw [htext, variableName_of_get?_eq_some hname]
      exact ⟨hdefines, tagged_of_definesVariable hok hdefines⟩
  · intro other hdefines
    rw [hlocal hunused] at hdefines
    exact not_tagged_localName id (tagged_of_definesVariable hok hdefines)
  · exact usesVariable_of_meets hok hopen hevent harg hid
      ((namesVariable_iff_isRead hprinted).mpr hread)

/-- Every text in the listings of a compiled project is handed to the engine by an event that
lowering meets.  Each argument of such an event that stands for a variable of the whole game is
printed under the variable's name in the file of globals exactly when a visited event names the
variable, and as a local variable otherwise.  All other arguments are printed without regard to the
names of variables. -/
theorem globals_declared_iff
    (hok : (compileScripts input reporter tree).result = .ok scripted) :
    (∀ compiled ∈ scripted.scripts, ∀ text, .string text ∈ compiled.listing →
      ∃ event, scripted.Meets input event ∧ text ∈ event.handed (scripted.scope input)) ∧
    ∀ event, scripted.Meets input event → ∀ arg ∈ event.args,
      (∀ id, printedId? input.schema event.command arg = some id →
        Usage.isGlobal input.project id = true → PrintsGlobal input scripted event arg id) ∧
      (printedId? input.schema event.command arg = none → ∀ aliases,
        argumentText { scripted.scope input with aliases := aliases } event.command arg.1 arg.2 =
          scripted.textOf input event arg) := by
  obtain ⟨-, -, symbols, hscripts⟩ := compileScripts_eq_ok hok
  refine ⟨fun compiled hcompiled text htext => ?_, fun event hevent arg harg => ⟨?_, ?_⟩⟩
  · rw [hscripts] at hcompiled
    obtain ⟨levels, event, hmet, hhanded⟩ := exists_met_of_string hcompiled htext
    exact ⟨event, ⟨levels, hmet⟩, hhanded⟩
  · exact fun id hprinted hglobal => printsGlobal hok hevent harg hprinted hglobal
  · exact fun hprinted aliases => argumentText_of_printedId?_eq_none hprinted aliases

end

/-! ## A variable that is printed but not read -/

/-- An encoder that makes every asset empty. -/
def emptyEncoder : Tile.Encoder where
  background _ _ _ := .ok ⟨[], [], [], [], 0, 0, none⟩
  sprite _ := .ok ⟨[], [], 0⟩
  tiles _ := .ok []
  audio _ := .ok []

/-- A scene that runs one event when it starts. -/
def loneScene (event : Event) : Scene where
  id := "room"
  symbol := "room"
  backgroundId := "wall"
  autoFadeSpeed := none
  script := [event]

/-- A project with one scene. -/
def loneInput (event : Event) : Tables.Input where
  project :=
    { scenes := [loneScene event]
      backgrounds := [{ id := "wall", name := "wall" }]
      fonts := [{ id := "mono", name := "mono" }] }
  root := ⟨"/game"⟩
  platform := .gameBoy
  schema := .builtin
  template := .files []
  encoder _ := emptyEncoder

/-- Sets variable 3, which the schema declares, to the value of variable 5, which it does not. -/
def copyEvent : Event where
  command := "EVENT_SET_VALUE"
  args :=
    [("value", .object [("type", .string "variable"), ("value", .string "5")]),
      ("variable", .string "3")]

lemma exists_ok_of_check {α : Type} {result : Except Error α} {check : α → Bool}
    (h : (result.toOption.map check).getD false = true) :
    ∃ a, result = .ok a ∧ check a = true := by
  cases result with
  | ok a => exact ⟨a, rfl, h⟩
  | error e => cases h

/-- Variable 5 belongs to the whole game as variable 3 does, but no event names it where the walk
reads: it has no name in the file of globals and is printed as a local variable. -/
theorem global_printed_as_local :
    Usage.isGlobal (loneInput copyEvent).project "5" = true ∧
      ∃ scripted, (compileScripts (loneInput copyEvent) {} {}).result = .ok scripted ∧
        scripted.aliases = [("3", "VAR_VARIABLE_3")] ∧
        ∃ compiled ∈ scripted.scripts, .string "variable=VAR_VARIABLE_3" ∈ compiled.listing ∧
          .string "value=.LOCAL_S_5" ∈ compiled.listing := by
  refine ⟨by decide, ?_⟩
  obtain ⟨scripted, hok, hcheck⟩ : ∃ scripted,
      (compileScripts (loneInput copyEvent) {} {}).result = .ok scripted ∧
        decide (scripted.aliases = [("3", "VAR_VARIABLE_3")] ∧
          ∃ compiled ∈ scripted.scripts, .string "variable=VAR_VARIABLE_3" ∈ compiled.listing ∧
            .string "value=.LOCAL_S_5" ∈ compiled.listing) = true :=
    exists_ok_of_check (by decide +kernel)
  exact ⟨scripted, hok, of_decide_eq_true hcheck⟩

/-- The event of a lone scene is met. -/
lemma meets_lone {scripted : Scripted} {reporter : Reporter} {tree : FileTree}
    (hok : (compileScripts (loneInput copyEvent) reporter tree).result = .ok scripted)
    (hscenes : scripted.tables.scenes ≠ []) : scripted.Meets (loneInput copyEvent) copyEvent := by
  obtain ⟨entry, hentry⟩ := List.exists_mem_of_ne_nil _ hscenes
  obtain ⟨scene, hscene, htaken⟩ := (compileScripts_eq_ok hok).2.1 entry hentry
  obtain rfl : scene = loneScene copyEvent := List.mem_singleton.mp hscene
  have hevents : copyEvent ∈ scriptMet (startRequest (scripted.scope (loneInput copyEvent))
      entry).events := by
    have hscript : entry.scene.script = [copyEvent] := by rw [htaken.scene_eq]; rfl
    have hfade : entry.scene.autoFadeSpeed = none := by rw [htaken.scene_eq]; rfl
    rw [startRequest, hfade]
    refine mem_scriptMet.mpr ⟨copyEvent, List.mem_append_right _ ?_, List.mem_cons_self⟩
    rw [hscript]
    exact List.mem_cons_self
  exact ⟨maxNesting, _, .entity (List.mem_flatMap.mpr ⟨entry, hentry, List.mem_cons_self⟩), hevents⟩

/-- Both variables of the lone event are printed as the theorem says. -/
theorem globals_declared_iff_copy :
    ∃ scripted, (compileScripts (loneInput copyEvent) {} {}).result = .ok scripted ∧
      PrintsGlobal (loneInput copyEvent) scripted copyEvent
        ("value", .object [("type", .string "variable"), ("value", .string "5")]) "5" ∧
      PrintsGlobal (loneInput copyEvent) scripted copyEvent ("variable", .string "3") "3" := by
  obtain ⟨scripted, hok, hcheck⟩ : ∃ scripted,
      (compileScripts (loneInput copyEvent) {} {}).result = .ok scripted ∧
        (!scripted.tables.scenes.isEmpty) = true :=
    exists_ok_of_check (by decide +kernel)
  have hmeets : scripted.Meets (loneInput copyEvent) copyEvent :=
    meets_lone hok (by simpa using hcheck)
  have hevent := (globals_declared_iff hok).2 copyEvent hmeets
  refine ⟨scripted, hok, (hevent _ ?_).1 "5" (by decide) (by decide),
    (hevent _ ?_).1 "3" (by decide) (by decide)⟩
  · exact List.mem_cons_self
  · exact List.mem_cons_of_mem _ List.mem_cons_self

end Cartridge.Compile
