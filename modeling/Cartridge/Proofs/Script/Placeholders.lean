import Cartridge.Proofs.Json.Order
import Cartridge.Proofs.Script.Reachability
import Cartridge.Proofs.Script.Sharing
import Cartridge.Script.Fade

/-!
# Placeholders of reserved arguments

The body of a custom event is bound by two hands.  A walk and the search for the fade bind it with
all arguments of the call, lowering with those that the call hands over, which leaves the reserved
arguments out.  Binding looks at nothing but the texts in a body (`bindEvents_eq_iff`), so the two
bodies differ exactly where a text is the placeholder of a reserved argument for which the call has
another value (`Leaks`).

A body is open when no text in it is the placeholder of a reserved argument.  These are the bodies
that are the same for both hands whatever the call is (`bindEvents_boundArgs`).
-/

namespace Cartridge.Script

open Cartridge.Json
open Cartridge.Project (CustomEvent)

/-! ## Texts -/

mutual

/-- The texts in a value, in order. -/
def valueTexts : Value → List String
  | .string text => [text]
  | .array items => itemsTexts items
  | .object fields => fieldsTexts fields
  | .null => []
  | .bool _ => []
  | .number _ => []

/-- The texts in the items of an array. -/
def itemsTexts : List Value → List String
  | [] => []
  | v :: rest => valueTexts v ++ itemsTexts rest

/-- The texts in the fields of an object; the names of the fields do not count. -/
def fieldsTexts : List (String × Value) → List String
  | [] => []
  | (_, v) :: rest => valueTexts v ++ fieldsTexts rest

end

mutual

/-- The texts in the arguments of an event and of its branches. -/
def eventTexts : Event → List String
  | ⟨_, _, args, branches⟩ => fieldsTexts args ++ branchesTexts branches

/-- The texts in a script, in order. -/
def scriptTexts : List Event → List String
  | [] => []
  | e :: rest => eventTexts e ++ scriptTexts rest

/-- The texts in named branches. -/
def branchesTexts : List (String × List Event) → List String
  | [] => []
  | (_, body) :: rest => scriptTexts body ++ branchesTexts rest

end

section

variable (args args' : Fields)

mutual

lemma bindValue_eq_iff :
    ∀ value, bindValue args value = bindValue args' value ↔
      ∀ text ∈ valueTexts value, bindText args text = bindText args' text
  | .string text => by simp [bindValue, valueTexts]
  | .array items => by
    rw [bindValue, bindValue, valueTexts, Value.array.injEq, bindValues_eq_iff items]
  | .object fields => by
    rw [bindValue, bindValue, valueTexts, Value.object.injEq, bindFields_eq_iff fields]
  | .null => by simp [bindValue, valueTexts]
  | .bool _ => by simp [bindValue, valueTexts]
  | .number _ => by simp [bindValue, valueTexts]

lemma bindValues_eq_iff :
    ∀ items, bindValues args items = bindValues args' items ↔
      ∀ text ∈ itemsTexts items, bindText args text = bindText args' text
  | [] => by simp [bindValues, itemsTexts]
  | v :: rest => by
    rw [bindValues, bindValues, itemsTexts, List.cons.injEq, List.forall_mem_append,
      bindValue_eq_iff v, bindValues_eq_iff rest]

lemma bindFields_eq_iff :
    ∀ fields, bindFields args fields = bindFields args' fields ↔
      ∀ text ∈ fieldsTexts fields, bindText args text = bindText args' text
  | [] => by simp [bindFields, fieldsTexts]
  | (name, v) :: rest => by
    rw [bindFields, bindFields, fieldsTexts, List.cons.injEq, Prod.mk.injEq,
      List.forall_mem_append, bindValue_eq_iff v, bindFields_eq_iff rest, and_iff_right rfl]

end

mutual

lemma bindEvent_eq_iff :
    ∀ event, bindEvent args event = bindEvent args' event ↔
      ∀ text ∈ eventTexts event, bindText args text = bindText args' text
  | ⟨_, _, own, branches⟩ => by
    rw [bindEvent, bindEvent, eventTexts, Event.mk.injEq, List.forall_mem_append,
      bindFields_eq_iff, bindBranches_eq_iff branches, and_iff_right rfl, and_iff_right rfl]

/-- Two calls bind a script in the same way exactly when they bind each text in it so. -/
lemma bindEvents_eq_iff :
    ∀ events, bindEvents args events = bindEvents args' events ↔
      ∀ text ∈ scriptTexts events, bindText args text = bindText args' text
  | [] => by simp [bindEvents, scriptTexts]
  | e :: rest => by
    rw [bindEvents, bindEvents, scriptTexts, List.cons.injEq, List.forall_mem_append,
      bindEvent_eq_iff e, bindEvents_eq_iff rest]

lemma bindBranches_eq_iff :
    ∀ branches, bindBranches args branches = bindBranches args' branches ↔
      ∀ text ∈ branchesTexts branches, bindText args text = bindText args' text
  | [] => by simp [bindBranches, branchesTexts]
  | (_, body) :: rest => by
    rw [bindBranches, bindBranches, branchesTexts, List.cons.injEq, Prod.mk.injEq,
      List.forall_mem_append, bindEvents_eq_iff body, bindBranches_eq_iff rest, and_iff_right rfl]

end

end

/-! ## Reserved arguments -/

/-- The text is the placeholder of a reserved argument, and the call has a value for the argument
that is not the placeholder itself. -/
def Leaks (args : Fields) (text : String) : Prop :=
  ∃ name value, placeholder? text = some name ∧ Text.startsWith "__" name = true ∧
    Fields.get? args name = some value ∧ value ≠ .string text

section

variable (args : Fields)

variable {name : String}

lemma get?_boundArgs (h : isBindable name = true) :
    Fields.get? (boundArgs args) name = Fields.get? args name := by
  rw [Fields.get?, Fields.get?, boundArgs, List.find?_filter]
  congr 2
  funext arg
  by_cases hname : arg.1 = name
  · simp [hname, h]
  · simp [hname]

lemma get?_boundArgs_eq_none (h : isBindable name = false) :
    Fields.get? (boundArgs args) name = none := by
  rw [Fields.get?_eq_none_iff]
  intro hmem
  obtain ⟨arg, harg, rfl⟩ := List.mem_map.mp hmem
  have hbindable := (List.mem_filter.mp harg).2
  rw [h] at hbindable
  cases hbindable

lemma isBindable_eq_false (h : Text.startsWith "__" name = true) :
    isBindable name = false := by
  rw [isBindable, h, Bool.not_true, Bool.and_false]

/-- The argument that names the callee is not reserved. -/
lemma ne_calleeArgument (h : Text.startsWith "__" name = true) :
    name ≠ calleeArgument := by
  rintro rfl
  exact absurd h (by decide)

/-- Bound with all arguments, a text that leaks becomes the value of the call; bound with those
that are handed over, it stays a placeholder. -/
lemma Leaks.bindText_ne {text : String} (h : Leaks args text) :
    bindText (boundArgs args) text = .string text ∧ bindText args text ≠ .string text := by
  obtain ⟨name, value, hname, hreserved, hvalue, hne⟩ := h
  have hcallee := ne_calleeArgument hreserved
  constructor
  · simp only [bindText, hname, if_neg hcallee, Option.getD_none,
      get?_boundArgs_eq_none args (isBindable_eq_false hreserved)]
  · simp only [bindText, hname, if_neg hcallee, hvalue, Option.getD_some]
    exact hne

/-- The two ways to bind a text differ exactly where it leaks. -/
lemma bindText_boundArgs_iff {text : String} :
    bindText (boundArgs args) text = bindText args text ↔ ¬Leaks args text := by
  constructor
  · intro heq hleaks
    obtain ⟨hbound, hfull⟩ := hleaks.bindText_ne
    exact hfull (heq.symm.trans hbound)
  · intro hopen
    rw [bindText, bindText]
    cases hname : placeholder? text with
    | none => rfl
    | some name =>
      dsimp only
      split_ifs with hcallee
      · rfl
      cases hreserved : Text.startsWith "__" name with
      | false => rw [get?_boundArgs args (by simp [isBindable, hcallee, hreserved])]
      | true =>
        -- a reserved argument that the call has is its own placeholder, else it would leak
        rw [get?_boundArgs_eq_none args (isBindable_eq_false hreserved), Option.getD_none]
        cases hvalue : Fields.get? args name with
        | none => rfl
        | some value =>
          by_contra hne
          exact hopen ⟨name, value, hname, hreserved, hvalue, fun heq => hne heq.symm⟩

/-- The two bodies of a call are the same exactly when nothing in the script leaks. -/
lemma bindEvents_boundArgs_iff {script : List Event} :
    bindEvents (boundArgs args) script = bindEvents args script ↔
      ∀ text ∈ scriptTexts script, ¬Leaks args text := by
  simp only [bindEvents_eq_iff, bindText_boundArgs_iff]

end

/-! ## Open scripts -/

/-- The text is no placeholder of a reserved argument. -/
def textIsOpen (text : String) : Bool :=
  match placeholder? text with
  | none => true
  | some name => !Text.startsWith "__" name

mutual

/-- No text in a value is a placeholder of a reserved argument. -/
def valueIsOpen : Value → Bool
  | .string text => textIsOpen text
  | .array items => valuesAreOpen items
  | .object fields => fieldsAreOpen fields
  | .null => true
  | .bool _ => true
  | .number _ => true

/-- The same for the items of an array. -/
def valuesAreOpen : List Value → Bool
  | [] => true
  | v :: rest => valueIsOpen v && valuesAreOpen rest

/-- The same for the fields of an object. -/
def fieldsAreOpen : List (String × Value) → Bool
  | [] => true
  | (_, v) :: rest => valueIsOpen v && fieldsAreOpen rest

end

mutual

/-- No text in the arguments of an event and of its branches is a placeholder of a reserved
argument. -/
def eventIsOpen : Event → Bool
  | ⟨_, _, args, branches⟩ => fieldsAreOpen args && branchesAreOpen branches

/-- The same for a script. -/
def scriptIsOpen : List Event → Bool
  | [] => true
  | e :: rest => eventIsOpen e && scriptIsOpen rest

/-- The same for named branches. -/
def branchesAreOpen : List (String × List Event) → Bool
  | [] => true
  | (_, body) :: rest => scriptIsOpen body && branchesAreOpen rest

end

mutual

lemma valueIsOpen_eq_all : ∀ value, valueIsOpen value = (valueTexts value).all textIsOpen
  | .string text => by simp [valueIsOpen, valueTexts]
  | .array items => valuesAreOpen_eq_all items
  | .object fields => fieldsAreOpen_eq_all fields
  | .null => rfl
  | .bool _ => rfl
  | .number _ => rfl

lemma valuesAreOpen_eq_all : ∀ items, valuesAreOpen items = (itemsTexts items).all textIsOpen
  | [] => rfl
  | v :: rest => by
    rw [valuesAreOpen, itemsTexts, List.all_append, valueIsOpen_eq_all v,
      valuesAreOpen_eq_all rest]

lemma fieldsAreOpen_eq_all : ∀ fields, fieldsAreOpen fields = (fieldsTexts fields).all textIsOpen
  | [] => rfl
  | (_, v) :: rest => by
    rw [fieldsAreOpen, fieldsTexts, List.all_append, valueIsOpen_eq_all v,
      fieldsAreOpen_eq_all rest]

end

mutual

lemma eventIsOpen_eq_all : ∀ event, eventIsOpen event = (eventTexts event).all textIsOpen
  | ⟨_, _, args, branches⟩ => by
    rw [eventIsOpen, eventTexts, List.all_append, fieldsAreOpen_eq_all args,
      branchesAreOpen_eq_all branches]

/-- A script is open exactly when each text in it is. -/
lemma scriptIsOpen_eq_all : ∀ events, scriptIsOpen events = (scriptTexts events).all textIsOpen
  | [] => rfl
  | e :: rest => by
    rw [scriptIsOpen, scriptTexts, List.all_append, eventIsOpen_eq_all e,
      scriptIsOpen_eq_all rest]

lemma branchesAreOpen_eq_all :
    ∀ branches, branchesAreOpen branches = (branchesTexts branches).all textIsOpen
  | [] => rfl
  | (_, body) :: rest => by
    rw [branchesAreOpen, branchesTexts, List.all_append, scriptIsOpen_eq_all body,
      branchesAreOpen_eq_all rest]

end

/-- A text is open exactly when no call makes it leak. -/
lemma textIsOpen_iff {text : String} : textIsOpen text = true ↔ ∀ args, ¬Leaks args text := by
  constructor
  · rintro hopen args ⟨name, value, hname, hreserved, -⟩
    simp [textIsOpen, hname, hreserved] at hopen
  · intro hleaks
    rw [textIsOpen]
    cases hname : placeholder? text with
    | none => rfl
    | some name =>
      rw [Bool.not_eq_true', ← Bool.not_eq_true]
      intro hreserved
      exact hleaks [(name, .null)]
        ⟨name, .null, hname, hreserved, Fields.get?_cons_self name _ [], by simp⟩

/-- Open scripts are those that every call binds in the same way with or without the reserved
arguments. -/
lemma scriptIsOpen_iff {script : List Event} :
    scriptIsOpen script = true ↔
      ∀ args, bindEvents (boundArgs args) script = bindEvents args script := by
  simp only [scriptIsOpen_eq_all, List.all_eq_true, textIsOpen_iff, bindEvents_boundArgs_iff]
  exact ⟨fun h args text htext => h text htext args, fun h text htext args => h args text htext⟩

/-- Where no placeholder names a reserved argument, binding does not depend on those. -/
lemma bindEvents_boundArgs (args : Fields) (events : List Event) (h : scriptIsOpen events = true) :
    bindEvents (boundArgs args) events = bindEvents args events :=
  scriptIsOpen_iff.mp h args

/-! ## The bodies of a call -/

/-- What a walk and the search for the fade take for the body of a call, and what lowering does. -/
lemma bodies_of_callee? {library : List CustomEvent} {call : Event} {custom : CustomEvent}
    (hcommand : call.command = Command.callCustom) (hcallee : callee? library call = some custom) :
    bodyOf? library call = some (bindEvents call.args custom.script) ∧
      (calleeOf? library call).map Callee.body =
        some (bindEvents (boundArgs call.args) custom.script) := by
  constructor
  · exact bodyOf?_eq_some_iff.mpr ⟨hcommand, custom, hcallee, rfl⟩
  · rw [calleeOf?, hcallee]
    rfl

/-- The body of a custom event, bound with all arguments of a call and with those that the call
hands over, is the same exactly when no text in the script is the placeholder of a reserved argument
for which the call has another value.  It is the same for every call exactly when the script is
open.  So a walk, the search for the fade and lowering take a call of the custom event for the same
body exactly when nothing leaks. -/
theorem bound_body_eq_iff_nothing_leaks (custom : CustomEvent) (args : Fields) :
    (bindEvents (boundArgs args) custom.script = bindEvents args custom.script ↔
      ∀ text ∈ scriptTexts custom.script, ¬Leaks args text) ∧
    ((∀ other, bindEvents (boundArgs other) custom.script = bindEvents other custom.script) ↔
      scriptIsOpen custom.script = true) ∧
    ∀ library call, call.command = Command.callCustom → call.args = args →
      callee? library call = some custom →
        ((calleeOf? library call).map Callee.body = bodyOf? library call ↔
          ∀ text ∈ scriptTexts custom.script, ¬Leaks args text) := by
  refine ⟨bindEvents_boundArgs_iff args, scriptIsOpen_iff.symm, ?_⟩
  rintro library call hcommand rfl hcallee
  obtain ⟨hwalk, hlowering⟩ := bodies_of_callee? hcommand hcallee
  rw [hwalk, hlowering, Option.some.injEq, bindEvents_boundArgs_iff]

/-- A custom event whose only event a call can disable through a reserved argument. -/
def hushedTalk : CustomEvent where
  id := "talk"
  script := [{ command := "EVENT_TEXT", args := [("__comment", .string "$__off$")] }]

/-- A call that does so. -/
def hushedCall : Event where
  command := Command.callCustom
  args := [("__off", .bool true), (calleeArgument, .string "talk")]

/-- A reserved argument decides for the walk and for the fade whether an event is there at all,
while lowering never hears of it: the walk passes the text by and the fade goes behind the call,
yet the text is compiled. -/
theorem hushed_text_is_lowered :
    bindEvents (boundArgs hushedCall.args) hushedTalk.script ≠
        bindEvents hushedCall.args hushedTalk.script ∧
      (walk [hushedTalk] maxNesting [hushedCall]).map (·.event.command) = [Command.callCustom] ∧
      fadePoint .builtin [hushedTalk] [hushedCall] = .append ∧
      ((calleeOf? [hushedTalk] hushedCall).map fun callee => callee.body.map Event.effect) =
        some [.engine] := by
  refine ⟨fun heq => ?_, by decide, by decide, rfl⟩
  have hdisabled := congrArg (List.map Event.isDisabled) heq
  exact absurd hdisabled (by decide)

end Cartridge.Script
