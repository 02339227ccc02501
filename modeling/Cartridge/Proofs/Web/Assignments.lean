import Mathlib.Data.List.Infix
import Cartridge.Proofs.Rom.Stems
import Cartridge.Proofs.Text.Pieces
import Cartridge.Web.Player

/-!
# The assignments of the player's script

A filled script is read in step with the script it was made of: it has the same characters and
the same assignments with new values (`Fills`).  Every assignment of the colour curve gets its
number.  The pass for the curve also goes over the name of the image that the pass before it has
put in, so images get the name as that pass leaves it (`fills_fillScript`).
-/

namespace Cartridge.Web

open Cartridge.Project (ColorCorrection)

/-- What a script assigns: the image and the number of the colour curve. -/
inductive Slot
  | image
  | curve
  deriving DecidableEq

namespace Slot

def mark : Slot → List Char
  | .image => imageMark.toList
  | .curve => curveMark.toList

/-- A value goes on with the character. -/
def inValue : Slot → Char → Bool
  | .image => (· != '"')
  | .curve => Char.isDigit

/-- The value is all that follows a mark before the rest of the text. -/
def IsValue (slot : Slot) (value rest : List Char) : Prop :=
  (∀ c ∈ value, slot.inValue c = true) ∧ ∀ c ∈ rest.head?, slot.inValue c = false

end Slot

/-- Two texts, read from left to right, have the same characters and assignments.  The values in
the second text are those of the first one after a change. -/
inductive Fills (change : Slot → List Char → List Char) : List Char → List Char → Prop
  | nil : Fills change [] []
  | plain {c : Char} {rest rest' : List Char} (h : ∀ slot : Slot, ¬ slot.mark <+: c :: rest)
    (h' : ∀ slot : Slot, ¬ slot.mark <+: c :: rest') (hrest : Fills change rest rest') :
    Fills change (c :: rest) (c :: rest')
  | assigned {slot : Slot} {value rest rest' : List Char} (h : slot.IsValue value rest)
    (h' : slot.IsValue (change slot value) rest') (hrest : Fills change rest rest') :
    Fills change (slot.mark ++ (value ++ rest)) (slot.mark ++ (change slot value ++ rest'))

variable {slot other : Slot} {c : Char} {text text' rest before after value : List Char}
  {change : Slot → List Char → List Char}

/-! ## Marks -/

lemma mark_ne_nil (slot : Slot) : slot.mark ≠ [] := by
  cases slot <;> decide

/-- Marks do not overlap: the end of one is not the start of another. -/
lemma marks_apart (slot other : Slot) : ∀ tail ∈ slot.mark.tails, tail ≠ [] →
    (tail <+: other.mark ∨ other.mark <+: tail) → tail = slot.mark ∧ slot = other := by
  cases slot <;> cases other <;> decide +kernel

/-- Where a mark or the end of one stands, no other mark stands. -/
lemma eq_of_mark_isPrefix {tail : List Char} (htail : tail <:+ slot.mark) (hne : tail ≠ [])
    (h : other.mark <+: tail ++ rest) : tail = slot.mark ∧ slot = other :=
  marks_apart slot other tail ((List.mem_tails _ _).mpr htail) hne
    (List.prefix_or_prefix_of_prefix (List.prefix_append tail rest) h)

/-- New values do not make new marks. -/
lemma Fills.isPrefix {tail : List Char} (h : Fills change text text') (htail : tail <:+ slot.mark)
    (hstands : tail <+: text') : tail <+: text := by
  induction h generalizing tail with
  | nil => exact hstands
  | plain _ _ _ ih =>
    cases tail with
    | nil => exact List.nil_prefix
    | cons d tail =>
      obtain ⟨rfl, hrest⟩ := List.cons_prefix_cons.mp hstands
      exact List.cons_prefix_cons.mpr ⟨rfl, ih ((List.suffix_cons d tail).trans htail) hrest⟩
  | @assigned other =>
    rcases eq_or_ne tail [] with rfl | hne
    · exact List.nil_prefix
    · have hmark := marks_apart slot other tail ((List.mem_tails _ _).mpr htail) hne
        (List.prefix_or_prefix_of_prefix hstands (List.prefix_append _ _))
      rw [hmark.1, hmark.2]
      exact List.prefix_append _ _

lemma Fills.head? (h : Fills change text text') : text'.head? = text.head? := by
  cases h with
  | nil => rfl
  | plain => rfl
  | assigned =>
    rw [List.head?_append_of_ne_nil _ (mark_ne_nil _), List.head?_append_of_ne_nil _
      (mark_ne_nil _)]

lemma Fills.cons (h : Fills change rest text') (hnone : ∀ slot : Slot, ¬ slot.mark <+: c :: rest) :
    Fills change (c :: rest) (c :: text') := by
  refine .plain hnone (fun slot hmark => hnone slot ?_) h
  obtain ⟨d, tail, hcons⟩ := List.exists_cons_of_ne_nil (mark_ne_nil slot)
  rw [hcons] at hmark ⊢
  obtain ⟨rfl, htail⟩ := List.cons_prefix_cons.mp hmark
  exact List.cons_prefix_cons.mpr ⟨rfl, h.isPrefix (hcons ▸ List.suffix_cons d tail) htail⟩

/-! ## One pass -/

lemma append_eq_of_breakAt? {mark text front after : List Char}
    (h : Text.breakAt? mark text = some (front, after)) : front ++ (mark ++ after) = text := by
  induction text generalizing front with
  | nil =>
    rw [Text.breakAt?] at h
    split at h <;> simp_all
  | cons c rest ih =>
    rw [Text.breakAt?] at h
    cases hhere : mark.isPrefixOf? (c :: rest) with
    | some found =>
      simp only [hhere, Option.some.injEq, Prod.mk.injEq] at h
      rw [← h.1, ← h.2, List.nil_append]
      exact List.isPrefixOf?_eq_some_iff_append_eq.mp hhere
    | none =>
      simp only [hhere, Option.map_eq_some_iff, Prod.mk.injEq] at h
      obtain ⟨⟨others, found⟩, hrest, rfl, rfl⟩ := h
      exact congrArg (c :: ·) (ih hrest)

/-- Room for every character is enough. -/
lemma assignFrom_congr {mark value : List Char} {inValue : Char → Bool} (hmark : mark ≠ [])
    {room room' : Nat} (h : text.length < room) (h' : text.length < room') :
    assignFrom mark value inValue room text = assignFrom mark value inValue room' text := by
  induction room generalizing room' text with
  | zero => omega
  | succ room ih =>
    obtain ⟨room', rfl⟩ : ∃ n, room' = n + 1 := ⟨room' - 1, by omega⟩
    rw [assignFrom, assignFrom]
    cases hbreak : Text.breakAt? mark text with
    | none => rfl
    | some parts =>
      have hlength := congrArg List.length (append_eq_of_breakAt? hbreak)
      rw [List.length_append, List.length_append] at hlength
      have hpos := List.length_pos_iff.mpr hmark
      have hdrop := (List.dropWhile_suffix inValue (l := parts.2)).length_le
      exact congrArg (parts.1 ++ mark ++ value ++ ·) (ih (by omega) (by omega))

/-- What follows a value is shorter than what begins with its mark. -/
lemma length_dropWhile_lt (slot : Slot) (after : List Char) :
    (after.dropWhile slot.inValue).length < (slot.mark ++ after).length := by
  have hdrop := (List.dropWhile_suffix slot.inValue (l := after)).length_le
  have hpos := List.length_pos_iff.mpr (mark_ne_nil slot)
  rw [List.length_append]
  omega

lemma isValue_takeWhile (slot : Slot) (after : List Char) :
    slot.IsValue (after.takeWhile slot.inValue) (after.dropWhile slot.inValue) := by
  refine ⟨List.all_eq_true.mp List.all_takeWhile, fun d hd => ?_⟩
  have hnext := List.head?_dropWhile_not slot.inValue after
  rwa [Option.mem_def.mp hd] at hnext

/-- A text after the pass for one slot. -/
def pass (slot : Slot) (value text : List Char) : List Char :=
  assignFrom slot.mark value slot.inValue (text.length + 1) text

lemma pass_nil (slot : Slot) (value : List Char) : pass slot value [] = [] := by
  cases slot <;> rfl

lemma pass_cons (h : ¬ slot.mark <+: c :: rest) :
    pass slot value (c :: rest) = c :: pass slot value rest := by
  have hhere : slot.mark.isPrefixOf? (c :: rest) = none :=
    Option.eq_none_iff_forall_not_mem.mpr fun found hfound =>
      h ⟨found, List.isPrefixOf?_eq_some_iff_append_eq.mp hfound⟩
  have hroom : pass slot value rest =
      assignFrom slot.mark value slot.inValue (rest.length + 1 + 1) rest :=
    assignFrom_congr (mark_ne_nil slot) (by omega) (by omega)
  rw [hroom, pass, List.length_cons, assignFrom, assignFrom, Text.breakAt?, hhere]
  cases Text.breakAt? slot.mark rest <;> rfl

lemma pass_mark (slot : Slot) (value after : List Char) :
    pass slot value (slot.mark ++ after) =
      slot.mark ++ (value ++ pass slot value (after.dropWhile slot.inValue)) := by
  have hhere : slot.mark.isPrefixOf? (slot.mark ++ after) = some after :=
    List.isPrefixOf?_eq_some_iff_append_eq.mpr rfl
  have hbreak : Text.breakAt? slot.mark (slot.mark ++ after) = some ([], after) := by
    obtain ⟨c, front, hmark⟩ := List.exists_cons_of_ne_nil (mark_ne_nil slot)
    rw [hmark, List.cons_append] at hhere ⊢
    rw [Text.breakAt?, hhere]
  have hrest : pass slot value (after.dropWhile slot.inValue) = assignFrom slot.mark value
      slot.inValue (slot.mark ++ after).length (after.dropWhile slot.inValue) :=
    assignFrom_congr (mark_ne_nil slot) (Nat.lt_succ_self _) (length_dropWhile_lt slot after)
  rw [hrest, pass, assignFrom, hbreak]
  simp only [List.nil_append, List.append_assoc]

lemma pass_assigned {old : List Char} (h : slot.IsValue old rest) :
    pass slot value (slot.mark ++ (old ++ rest)) =
      slot.mark ++ (value ++ pass slot value rest) := by
  rw [pass_mark, List.dropWhile_append_of_pos h.1]
  cases rest with
  | nil => rfl
  | cons d rest => rw [List.dropWhile_cons_of_neg (by simp [h.2 d rfl])]

/-- A pass leaves a text alone in which no mark begins. -/
lemma pass_append (h : ∀ tail, tail <:+ before → tail ≠ [] → ¬ slot.mark <+: tail ++ rest) :
    pass slot value (before ++ rest) = before ++ pass slot value rest := by
  induction before with
  | nil => rfl
  | cons c before ih =>
    have hhere := h _ List.suffix_rfl (List.cons_ne_nil c before)
    rw [List.cons_append] at hhere ⊢
    rw [pass_cons hhere, ih fun tail htail => h tail (htail.trans (List.suffix_cons c before)),
      List.cons_append]

lemma pass_eq_self (h : ¬ slot.mark <:+: text) : pass slot value text = text := by
  have hkept : pass slot value (text ++ []) = text ++ pass slot value [] :=
    pass_append fun tail htail _ hmark =>
      h ((List.append_nil tail ▸ hmark).isInfix.trans htail.isInfix)
  rwa [pass_nil, List.append_nil] at hkept

/-- A pass does not reach over a character that belongs to neither its mark nor its values. -/
lemma pass_append_cons (hmark : c ∉ slot.mark) (hvalue : slot.inValue c = false) :
    pass slot value (before ++ c :: after) =
      pass slot value before ++ c :: pass slot value after := by
  induction hlength : before.length using Nat.strong_induction_on generalizing before with
  | _ n ih =>
    by_cases hstands : slot.mark <+: before
    · obtain ⟨front, rfl⟩ := hstands
      have hshort := hlength ▸ length_dropWhile_lt slot front
      have hover : (front ++ c :: after).dropWhile slot.inValue =
          front.dropWhile slot.inValue ++ c :: after := by
        rw [List.dropWhile_append]
        split_ifs with hempty
        · rw [List.isEmpty_iff.mp hempty, List.dropWhile_cons_of_neg (by simp [hvalue])]
          rfl
        · rfl
      rw [List.append_assoc, pass_mark, pass_mark, hover, ih _ hshort rfl]
      simp only [List.append_assoc]
    · have hnot : ¬ slot.mark <+: before ++ c :: after := fun h =>
        hstands ((Text.isPrefix_append_cons_iff hmark).mp h)
      cases before with
      | nil => rw [pass_nil]; exact pass_cons hnot
      | cons d before =>
        rw [List.cons_append] at hnot ⊢
        rw [pass_cons hnot, pass_cons hstands, ih before.length (by simp [← hlength]) rfl,
          List.cons_append]

/-! ## Both passes -/

/-- The pass for the image finds no mark in an assignment of the curve. -/
lemma pass_image_curve (hdigits : ∀ d ∈ text, d.isDigit = true) :
    pass .image value (Slot.curve.mark ++ (text ++ rest)) =
      Slot.curve.mark ++ (text ++ pass .image value rest) := by
  have hdigit : pass .image value (text ++ rest) = text ++ pass .image value rest :=
    pass_append fun tail htail hne hmark => by
      obtain ⟨d, tail, rfl⟩ := List.exists_cons_of_ne_nil hne
      have hfirst := (List.cons_prefix_cons.mp hmark).1
      have hd := hdigits d (htail.subset List.mem_cons_self)
      rw [← hfirst] at hd
      exact absurd hd (by decide)
  rw [pass_append fun tail htail hne hmark =>
    absurd (eq_of_mark_isPrefix htail hne hmark).2 (by decide), hdigit]

/-- The pass for the curve goes over the value of an image by itself. -/
lemma pass_curve_image (hend : ∀ d ∈ rest.head?, Slot.image.inValue d = false) :
    pass .curve value (Slot.image.mark ++ (text ++ rest)) =
      Slot.image.mark ++ (pass .curve value text ++ pass .curve value rest) := by
  rw [pass_append fun tail htail hne hmark =>
    absurd (eq_of_mark_isPrefix htail hne hmark).2 (by decide)]
  cases rest with
  | nil => rw [List.append_nil, pass_nil, List.append_nil]
  | cons d rest =>
    obtain rfl : d = '"' := by simpa [Slot.inValue] using hend d rfl
    rw [pass_append_cons (by decide) (by decide), pass_cons (by simp [Slot.mark, curveMark])]

lemma not_mem_pass {c : Char} (hmark : c ∉ slot.mark) (hvalue : c ∉ value) (h : c ∉ text) :
    c ∉ pass slot value text := by
  suffices hroom : ∀ room text, c ∉ text → c ∉ assignFrom slot.mark value slot.inValue room text
    from hroom _ _ h
  intro room
  induction room with
  | zero => exact fun text h => h
  | succ room ih =>
    intro text h
    rw [assignFrom]
    cases hbreak : Text.breakAt? slot.mark text with
    | none => exact h
    | some found =>
      rw [← append_eq_of_breakAt? hbreak] at h
      simp only [List.mem_append, not_or] at h ⊢
      exact ⟨⟨⟨h.1, hmark⟩, hvalue⟩, ih _ fun hc =>
        h.2.2 ((List.dropWhile_suffix slot.inValue).subset hc)⟩

/-- The values of a script after the pass for the image. -/
def imageChange (name : List Char) : Slot → List Char → List Char
  | .image, _ => name
  | .curve, old => old

/-- The values of all assignments. -/
def slotValue (image : String) (correction : ColorCorrection) : Slot → List Char
  | .image => image.toList
  | .curve => (curveNumber correction).toList

lemma fills_passes {name : List Char} (hname : '"' ∉ name) {image : String}
    {correction : ColorCorrection}
    (himage : image.toList = pass .curve (curveNumber correction).toList name) (text : List Char) :
    Fills (imageChange name) text (pass .image name text) ∧
      Fills (fun slot _ => slotValue image correction slot) text
        (pass .curve (curveNumber correction).toList (pass .image name text)) := by
  have hnumber : '"' ∉ (curveNumber correction).toList ∧
      ∀ d ∈ (curveNumber correction).toList, d.isDigit = true :=
    ⟨by cases correction <;> decide, List.all_eq_true.mp (by cases correction <;> decide)⟩
  have hquote : ∀ value : List Char, '"' ∉ value → ∀ d ∈ value, Slot.image.inValue d = true :=
    fun value hvalue d hd => bne_iff_ne.mpr fun heq => hvalue (heq ▸ hd)
  -- From left to right: a character at which no mark stands, or an assignment as a whole.
  induction hlength : text.length using Nat.strong_induction_on generalizing text with
  | _ n ih =>
    cases text with
    | nil =>
      rw [pass_nil, pass_nil]
      exact ⟨.nil, .nil⟩
    | cons c rest =>
      by_cases hnone : ∀ slot : Slot, ¬ slot.mark <+: c :: rest
      · obtain ⟨hfirst, hboth⟩ := ih rest.length (by simp [← hlength]) rest rfl
        have hcurve : ¬ Slot.curve.mark <+: c :: pass .image name rest := fun hmark =>
          hnone .curve ((hfirst.cons hnone).isPrefix List.suffix_rfl hmark)
        rw [pass_cons (hnone .image), pass_cons hcurve]
        exact ⟨hfirst.cons hnone, hboth.cons hnone⟩
      · push Not at hnone
        obtain ⟨slot, after, hafter⟩ := hnone
        have hvalue := isValue_takeWhile slot after
        have hshort : (after.dropWhile slot.inValue).length < n :=
          hlength ▸ hafter ▸ length_dropWhile_lt slot after
        obtain ⟨hfirst, hboth⟩ := ih _ hshort _ rfl
        rw [← hafter, ← List.takeWhile_append_dropWhile (p := slot.inValue) (l := after)]
        generalize after.takeWhile slot.inValue = old, after.dropWhile slot.inValue = rest
          at hvalue hfirst hboth
        have hend : ∀ d ∈ (pass .image name rest).head?, slot.inValue d = false :=
          hfirst.head? ▸ hvalue.2
        cases slot with
        | image =>
          rw [pass_assigned hvalue, pass_curve_image hend, ← himage]
          have hclean : '"' ∉ image.toList :=
            himage ▸ not_mem_pass (by decide) hnumber.1 hname
          exact ⟨.assigned hvalue ⟨hquote _ hname, hend⟩ hfirst,
            .assigned hvalue ⟨hquote _ hclean, hboth.head? ▸ hvalue.2⟩ hboth⟩
        | curve =>
          rw [pass_image_curve hvalue.1, pass_assigned ⟨hvalue.1, hend⟩]
          exact ⟨.assigned hvalue ⟨hvalue.1, hend⟩ hfirst,
            .assigned hvalue ⟨hnumber.2, hboth.head? ▸ hvalue.2⟩ hboth⟩

lemma quote_not_mem_fileName (chosen project : String) (colorOnly : Bool)
    (product : Build.Product) : '"' ∉ (Rom.fileName chosen project colorOnly product).toList := by
  have hstem : '"' ∉ (Rom.fileStem chosen project).toList := fun h =>
    absurd (Rom.isUsable_of_mem_fileStem h) (by decide)
  have hextension : '"' ∉ (product.extension colorOnly).toList := by
    cases product <;> cases colorOnly <;> decide
  simp only [Rom.fileName, String.toList_append, List.mem_append, not_or]
  exact ⟨⟨hstem, by decide⟩, hextension⟩

/-- A filled script has the characters and assignments of the script, with new values: the number of
the curve, and the name of the image as the pass for the curve leaves it.  A name in which that pass
finds nothing is the value of all images. -/
theorem fills_fillScript (script chosen project : String) (colorOnly : Bool)
    (product : Build.Product) (correction : ColorCorrection) :
    let image := "rom/" ++ Rom.fileName chosen project colorOnly product
    let filled := fillScript script (Rom.fileName chosen project colorOnly product) correction
    let rewritten := assign curveMark (curveNumber correction) Char.isDigit image
    Fills (fun slot _ => slotValue rewritten correction slot) script.toList filled.toList ∧
      (¬ curveMark.toList <:+: image.toList →
        Fills (fun slot _ => slotValue image correction slot) script.toList filled.toList) := by
  intro image filled rewritten
  have hquote : '"' ∉ image.toList := by
    rw [String.toList_append, List.mem_append, not_or]
    exact ⟨by decide, quote_not_mem_fileName chosen project colorOnly product⟩
  have hassign : ∀ (slot : Slot) (value text : String),
      (assign (String.ofList slot.mark) value slot.inValue text).toList =
        pass slot value.toList text.toList := fun slot value text => by
    rw [assign, String.toList_ofList, String.toList_ofList, pass, String.length_toList]
  have hrewritten : rewritten.toList = pass .curve (curveNumber correction).toList image.toList :=
    hassign .curve _ _
  have hfilled : filled.toList = pass .curve (curveNumber correction).toList
      (pass .image image.toList script.toList) :=
    (hassign .curve _ _).trans (congrArg (pass .curve _) (hassign .image _ _))
  rw [hfilled]
  refine ⟨(fills_passes hquote hrewritten script.toList).2, fun hnone => ?_⟩
  change ¬ Slot.curve.mark <:+: image.toList at hnone
  exact (fills_passes hquote (pass_eq_self hnone).symm script.toList).2

/-- A name that assigns the colour curve itself arrives with another number. -/
theorem image_name_is_assigned :
    let image := Rom.fileName "CGB_COLOR_CURVE = 7" "" false .pocket
    image = "CGB_COLOR_CURVE = 7.pocket" ∧
      fillScript "ROM_FILENAME = \"\"" image .standard =
        "ROM_FILENAME = \"rom/CGB_COLOR_CURVE = 2.pocket\"" := by
  decide +kernel

end Cartridge.Web
