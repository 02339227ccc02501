import Mathlib.Data.List.Perm.Subperm
import Mathlib.Data.String.Basic
import Cartridge.Json.Decoder

/-!
# The order of fields

An object that stands for a map lists its fields in increasing order of their names, each name
once.  Setting a field keeps that order (`Fields.ordered_insert`), so every value that is read from
a document has it, at all depths and whatever the order of the text (`Value.ordered_of_ofText?`).

In this order a map is determined by what it answers: fields with the same names in order are the
same list of names (`Fields.Ordered.names_eq`).
-/

namespace Cartridge.Json

namespace Fields

variable {α : Type}

variable {name : String}

lemma mem_of_get?_eq_some {fields : List (String × α)} {value : α}
    (h : get? fields name = some value) : (name, value) ∈ fields := by
  obtain ⟨entry, hentry, rfl⟩ := Option.map_eq_some_iff.mp h
  have hname : entry.1 = name := by simpa using List.find?_some hentry
  rw [← hname]
  exact List.mem_of_find?_eq_some hentry

lemma get?_eq_none_iff {fields : List (String × α)} :
    get? fields name = none ↔ name ∉ fields.map Prod.fst := by
  rw [get?, Option.map_eq_none_iff, List.find?_eq_none]
  simp only [beq_iff_eq, List.mem_map, not_exists, not_and]

lemma get?_cons_self (name : String) (value : α) (rest : List (String × α)) :
    get? ((name, value) :: rest) name = some value := by
  simp [get?]

lemma get?_cons_of_ne {other : String} (h : other ≠ name) (value : α) (rest : List (String × α)) :
    get? ((other, value) :: rest) name = get? rest name := by
  simp [get?, h]

/-! ## Fields in order -/

/-- The names increase. -/
def Ordered (fields : List (String × α)) : Prop :=
  (fields.map Prod.fst).Pairwise (· < ·)

instance (fields : List (String × α)) : Decidable (Ordered fields) :=
  inferInstanceAs (Decidable ((fields.map Prod.fst).Pairwise (· < ·)))

lemma ordered_cons {value : α} {rest : List (String × α)} :
    Ordered ((name, value) :: rest) ↔ (∀ entry ∈ rest, name < entry.1) ∧ Ordered rest := by
  simp only [Ordered, List.map_cons, List.pairwise_cons, List.mem_map, forall_exists_index, and_imp,
    forall_apply_eq_imp_iff₂]

lemma Ordered.nodup {fields : List (String × α)} (h : Ordered fields) :
    (fields.map Prod.fst).Nodup :=
  List.Pairwise.imp (fun hlt => ne_of_lt hlt) h

/-- What is among the fields after one is set was there before or is the new one. -/
lemma mem_insert {value : α} {fields : List (String × α)} {entry : String × α}
    (h : entry ∈ insert name value fields) : entry = (name, value) ∨ entry ∈ fields := by
  induction fields with
  | nil => exact .inl (List.mem_singleton.mp h)
  | cons field rest ih =>
    obtain ⟨other, old⟩ := field
    rw [insert] at h
    split_ifs at h with hlt heq
    · exact List.mem_cons.mp h
    · rcases List.mem_cons.mp h with hnew | hrest
      · exact .inl hnew
      · exact .inr (List.mem_cons_of_mem _ hrest)
    · rcases List.mem_cons.mp h with hfirst | hrest
      · exact .inr (hfirst ▸ List.mem_cons_self)
      · exact (ih hrest).imp_right (List.mem_cons_of_mem _)

lemma ordered_insert {fields : List (String × α)} (h : Ordered fields) (name : String)
    (value : α) : Ordered (insert name value fields) := by
  induction fields with
  | nil => exact ordered_cons.mpr ⟨fun _ hentry => absurd hentry List.not_mem_nil, h⟩
  | cons field rest ih =>
    obtain ⟨other, old⟩ := field
    obtain ⟨hbelow, hrest⟩ := ordered_cons.mp h
    rw [insert]
    split_ifs with hlt heq
    · refine ordered_cons.mpr ⟨?_, h⟩
      intro entry hentry
      rcases List.mem_cons.mp hentry with rfl | hentry
      · exact hlt
      · exact hlt.trans (hbelow entry hentry)
    · rw [heq]
      exact ordered_cons.mpr ⟨hbelow, hrest⟩
    · refine ordered_cons.mpr ⟨?_, ih hrest⟩
      intro entry hentry
      rcases mem_insert hentry with rfl | hentry
      · exact lt_of_le_of_ne (not_lt.mp hlt) (Ne.symm heq)
      · exact hbelow entry hentry

lemma ordered_foldl_insert (entries : List (String × α)) {fields : List (String × α)}
    (h : Ordered fields) :
    Ordered (entries.foldl (fun fields entry => insert entry.1 entry.2 fields) fields) := by
  induction entries generalizing fields with
  | nil => exact h
  | cons entry rest ih => exact ih (ordered_insert h entry.1 entry.2)

lemma mem_foldl_insert (entries : List (String × α)) {fields : List (String × α)}
    {entry : String × α}
    (h : entry ∈ entries.foldl (fun fields entry => insert entry.1 entry.2 fields) fields) :
    entry ∈ entries ∨ entry ∈ fields := by
  induction entries generalizing fields with
  | nil => exact .inr h
  | cons first rest ih =>
    rcases ih h with hrest | hset
    · exact .inl (List.mem_cons_of_mem _ hrest)
    · rcases mem_insert hset with rfl | hfields
      · exact .inl List.mem_cons_self
      · exact .inr hfields

lemma ordered_ofList (entries : List (String × α)) : Ordered (ofList entries) :=
  ordered_foldl_insert entries List.Pairwise.nil

lemma mem_ofList {entries : List (String × α)} {entry : String × α} (h : entry ∈ ofList entries) :
    entry ∈ entries :=
  (mem_foldl_insert entries h).resolve_right List.not_mem_nil

/-- A field with a new name is added somewhere among the others. -/
lemma perm_insert {fields : List (String × α)} (hname : name ∉ fields.map Prod.fst) (value : α) :
    (insert name value fields).Perm ((name, value) :: fields) := by
  induction fields with
  | nil => exact List.Perm.refl _
  | cons field rest ih =>
    obtain ⟨other, old⟩ := field
    rw [List.map_cons, List.mem_cons, not_or] at hname
    rw [insert]
    split_ifs with hlt heq
    · exact List.Perm.refl _
    · exact absurd heq hname.1
    · exact ((ih hname.2).cons _).trans (List.Perm.swap _ _ _)

lemma perm_foldl_insert (entries : List (String × α)) {fields : List (String × α)}
    (h : ((fields ++ entries).map Prod.fst).Nodup) :
    (entries.foldl (fun fields entry => insert entry.1 entry.2 fields) fields).Perm
      (fields ++ entries) := by
  induction entries generalizing fields with
  | nil => rw [List.append_nil]; exact List.Perm.refl _
  | cons entry rest ih =>
    have hmiddle : (fields ++ entry :: rest).Perm (entry :: fields ++ rest) := List.perm_middle
    have hnodup := (hmiddle.map Prod.fst).nodup_iff.mp h
    rw [List.cons_append, List.map_cons, List.nodup_cons, List.map_append, List.mem_append,
      not_or] at hnodup
    have hset : (insert entry.1 entry.2 fields ++ rest).Perm (fields ++ entry :: rest) :=
      ((perm_insert hnodup.1.1 entry.2).append_right rest).trans hmiddle.symm
    exact (ih ((hset.map Prod.fst).nodup_iff.mpr h)).trans hset

lemma perm_ofList {entries : List (String × α)} (h : (entries.map Prod.fst).Nodup) :
    (ofList entries).Perm entries :=
  @perm_foldl_insert α entries [] h

/-- The order in which different names are given does not matter. -/
lemma ofList_eq_of_perm {entries others : List (String × α)} (h : entries.Perm others)
    (hnodup : (entries.map Prod.fst).Nodup) : ofList entries = ofList others := by
  have hperm : (ofList entries).Perm (ofList others) :=
    ((perm_ofList hnodup).trans h).trans
      (perm_ofList ((h.map Prod.fst).nodup_iff.mp hnodup)).symm
  have hentries := List.pairwise_map.mp (ordered_ofList entries)
  have hothers := List.pairwise_map.mp (ordered_ofList others)
  exact hperm.eq_of_pairwise (fun a b _ _ hab hba => absurd hba hab.asymm) hentries hothers

/-- As many fields in order, each name of the one among those of the other: the names are the
same. -/
lemma Ordered.names_eq {β : Type} {fields : List (String × α)} {others : List (String × β)}
    (h : Ordered fields) (hothers : Ordered others) (hlength : fields.length = others.length)
    (hsubset : fields.map Prod.fst ⊆ others.map Prod.fst) :
    fields.map Prod.fst = others.map Prod.fst := by
  have hperm : (fields.map Prod.fst).Perm (others.map Prod.fst) :=
    (List.subperm_of_subset h.nodup hsubset).perm_of_length_le (by simp [hlength])
  exact hperm.eq_of_pairwise (fun a b _ _ hab hba => absurd hba hab.asymm) h hothers

end Fields

/-! ## Values in order -/

mutual

/-- All objects in the value list their fields in order. -/
def Value.Ordered : Value → Prop
  | .array items => ItemsOrdered items
  | .object fields => Fields.Ordered fields ∧ FieldsOrdered fields
  | _ => True

/-- All objects in the items of an array list their fields in order. -/
def ItemsOrdered : List Value → Prop
  | [] => True
  | v :: rest => v.Ordered ∧ ItemsOrdered rest

/-- All objects in the values of fields list their fields in order. -/
def FieldsOrdered : Fields → Prop
  | [] => True
  | (_, v) :: rest => v.Ordered ∧ FieldsOrdered rest

end

lemma fieldsOrdered_iff {fields : Fields} :
    FieldsOrdered fields ↔ ∀ field ∈ fields, field.2.Ordered := by
  induction fields with
  | nil => simp [FieldsOrdered]
  | cons field rest ih => rw [FieldsOrdered, ih, List.forall_mem_cons]

mutual

/-- The value of a part of a document has its fields in order. -/
lemma Node.ordered_of_value? :
    ∀ (node : Node) (room : Nat) (v : Value), node.value? room = some v → v.Ordered
  | .null, room, v, h => by
    rw [Node.value?] at h
    cases h
    trivial
  | .bool b, room, v, h => by
    rw [Node.value?] at h
    cases h
    trivial
  | .number value, room, v, h => by
    rw [Node.value?] at h
    obtain ⟨n, -, rfl⟩ := Option.map_eq_some_iff.mp h
    trivial
  | .string text, room, v, h => by
    rw [Node.value?] at h
    obtain ⟨s, -, rfl⟩ := Option.map_eq_some_iff.mp h
    trivial
  | .array items, 0, v, h => by simp [Node.value?] at h
  | .array items, room + 1, v, h => by
    rw [Node.value?] at h
    obtain ⟨values, hvalues, rfl⟩ := Option.map_eq_some_iff.mp h
    exact Node.itemsOrdered_of_values? items room values hvalues
  | .object entries, 0, v, h => by simp [Node.value?] at h
  | .object entries, room + 1, v, h => by
    rw [Node.value?] at h
    obtain ⟨fields, hfields, rfl⟩ := Option.map_eq_some_iff.mp h
    have hvalues := Node.ordered_of_fieldValues? entries room fields hfields
    refine ⟨Fields.ordered_ofList fields, fieldsOrdered_iff.mpr ?_⟩
    exact fun field hfield => hvalues field (Fields.mem_ofList hfield)

lemma Node.itemsOrdered_of_values? :
    ∀ (items : List Node) (room : Nat) (values : List Value),
      Node.values? items room = some values → ItemsOrdered values
  | [], room, values, h => by
    rw [Node.values?] at h
    cases h
    trivial
  | item :: rest, room, values, h => by
    rw [Node.values?] at h
    split at h
    · rename_i v vs hv hvs
      cases h
      exact ⟨Node.ordered_of_value? item room v hv, Node.itemsOrdered_of_values? rest room vs hvs⟩
    · cases h

lemma Node.ordered_of_fieldValues? :
    ∀ (entries : List (Option String × Node)) (room : Nat) (fields : Fields),
      Node.fieldValues? entries room = some fields → ∀ field ∈ fields, field.2.Ordered
  | [], room, fields, h => by
    rw [Node.fieldValues?] at h
    cases h
    simp
  | (name, node) :: rest, room, fields, h => by
    unfold Node.fieldValues? at h
    split at h
    · rename_i k v vs hv hvs
      cases h
      rw [List.forall_mem_cons]
      exact ⟨Node.ordered_of_value? node room v hv,
        Node.ordered_of_fieldValues? rest room vs hvs⟩
    · cases h

end

/-- Every value that a text writes has its fields in order. -/
lemma Value.ordered_of_ofText? {text : String} {v : Value} (h : Value.ofText? text = some v) :
    v.Ordered := by
  obtain ⟨node, -, hvalue⟩ := Option.bind_eq_some_iff.mp h
  exact node.ordered_of_value? nestingLimit v hvalue

end Cartridge.Json
