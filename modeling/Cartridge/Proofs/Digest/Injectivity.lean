import Cartridge.Proofs.Digest.Encoding
import Cartridge.Proofs.Json.Order

/-!
# Digested content is determined by its bytes

Values are compared by `Same`: numbers by their text, objects by what they answer for each name.
The order in which an object lists its fields does not count there, while the bytes of an object
are written in the order of its fields.  The two fit together because the fields of a digested
object are in order of their names (`same_iff_alike`).

What is taken as given is that a value is `Storable`: its objects are maps, and the length of every
text, array and object fits the word that is written in front of it.  Values read from a text are
maps at all depths (`Value.ordered_of_ofText?`).

The main result, `digested_content_unique`, is about all bytes that reach a digest: lists of calls
are equal when their bytes are, values are the same when their bytes agree at the front of any two
byte strings, and equal streams behind two keys have the same domain and the same value.
-/

namespace Cartridge.Digest

open Cartridge.Json

/-! ## Sameness of values -/

mutual

/-- Values that are the same: numbers have the same text, and objects have the same names with the
same values. -/
def Same : Value → Value → Prop
  | .null, .null => True
  | .bool b, .bool b' => b = b'
  | .number n, .number n' => n.text = n'.text
  | .string s, .string s' => s = s'
  | .array items, .array items' => ItemsSame items items'
  | .object fields, .object others => fields.length = others.length ∧ FieldsSame fields others
  | _, _ => False

/-- Items that are the same one by one. -/
def ItemsSame : List Value → List Value → Prop
  | [], [] => True
  | v :: rest, w :: rest' => Same v w ∧ ItemsSame rest rest'
  | _, _ => False

/-- Others have each of the fields by its name, with the same value. -/
def FieldsSame : Fields → Fields → Prop
  | [], _ => True
  | (name, v) :: rest, others =>
    (∃ w, Fields.get? others name = some w ∧ Same v w) ∧ FieldsSame rest others

end

/-- Others that answer alike have the same fields. -/
lemma FieldsSame.congr {fields others others' : Fields}
    (hget : ∀ name ∈ fields.map Prod.fst, Fields.get? others name = Fields.get? others' name)
    (h : FieldsSame fields others) : FieldsSame fields others' := by
  induction fields with
  | nil => trivial
  | cons field rest ih =>
    rw [List.map_cons, List.forall_mem_cons] at hget
    obtain ⟨⟨w, hw, hsame⟩, hrest⟩ := h
    exact ⟨⟨w, hget.1 ▸ hw, hsame⟩, ih hget.2 hrest⟩

lemma FieldsSame.names_subset {fields others : Fields} (h : FieldsSame fields others) :
    fields.map Prod.fst ⊆ others.map Prod.fst := by
  induction fields with
  | nil => simp
  | cons field rest ih =>
    obtain ⟨⟨w, hw, -⟩, hrest⟩ := h
    rw [List.map_cons, List.cons_subset]
    exact ⟨List.mem_map.mpr ⟨(field.1, w), Fields.mem_of_get?_eq_some hw, rfl⟩, ih hrest⟩

/-- A name in front of fields in order is none of theirs, so the field there does not hide them. -/
lemma get?_cons_of_ordered {name : String} {w : Value} {rest : Fields}
    (h : Fields.Ordered ((name, w) :: rest)) {other : String} (hother : other ∈ rest.map Prod.fst) :
    Fields.get? ((name, w) :: rest) other = Fields.get? rest other := by
  obtain ⟨entry, hentry, rfl⟩ := List.mem_map.mp hother
  exact Fields.get?_cons_of_ne (ne_of_lt ((Fields.ordered_cons.mp h).1 entry hentry)) w rest

mutual

/-- On values in order, sameness is what the digest sees. -/
lemma same_iff_alike : ∀ {v w : Value}, v.Ordered → w.Ordered → (Same v w ↔ Alike v w)
  | .null, w, _, _ => by cases w <;> simp [Same, Alike]
  | .bool b, w, _, _ => by cases w <;> simp [Same, Alike]
  | .number n, w, _, _ => by cases w <;> simp [Same, Alike]
  | .string t, w, _, _ => by cases w <;> simp [Same, Alike]
  | .array items, w, hv, hw => by
    cases w with
    | array items' =>
      rw [Same, Alike]
      exact itemsSame_iff_itemsAlike hv hw
    | _ => simp [Same, Alike]
  | .object fields, w, hv, hw => by
    cases w with
    | object others =>
      rw [Value.Ordered] at hv hw
      rw [Same, Alike]
      constructor
      · rintro ⟨hlength, hsame⟩
        have hnames := hv.1.names_eq hw.1 hlength hsame.names_subset
        exact (fieldsSame_iff_fieldsAlike hnames hv.1 hw.1 hv.2 hw.2).mp hsame
      · intro halike
        have hnames := halike.names_eq
        have hlength : fields.length = others.length := by simpa using congrArg List.length hnames
        exact ⟨hlength, (fieldsSame_iff_fieldsAlike hnames hv.1 hw.1 hv.2 hw.2).mpr halike⟩
    | _ => simp [Same, Alike]

lemma itemsSame_iff_itemsAlike : ∀ {items items' : List Value}, ItemsOrdered items →
    ItemsOrdered items' → (ItemsSame items items' ↔ ItemsAlike items items')
  | [], [], _, _ => by simp [ItemsSame, ItemsAlike]
  | [], w :: rest', _, _ => by simp [ItemsSame, ItemsAlike]
  | v :: rest, [], _, _ => by simp [ItemsSame, ItemsAlike]
  | v :: rest, w :: rest', hv, hw => by
    rw [ItemsSame, ItemsAlike, same_iff_alike hv.1 hw.1, itemsSame_iff_itemsAlike hv.2 hw.2]

lemma fieldsSame_iff_fieldsAlike : ∀ {fields others : Fields},
    fields.map Prod.fst = others.map Prod.fst → Fields.Ordered fields → Fields.Ordered others →
      FieldsOrdered fields → FieldsOrdered others →
      (FieldsSame fields others ↔ FieldsAlike fields others)
  | [], [], _, _, _, _, _ => by simp [FieldsSame, FieldsAlike]
  | (name, v) :: rest, (name', w) :: rest', hnames, hfields, hothers, hv, hw => by
    obtain ⟨rfl, hrests⟩ := List.cons.inj hnames
    -- behind the first field the look-ups go past the first of the others
    have hget : ∀ other ∈ rest.map Prod.fst,
        Fields.get? ((name, w) :: rest') other = Fields.get? rest' other := by
      intro other hother
      exact get?_cons_of_ordered hothers (hrests ▸ hother)
    have hrest := fieldsSame_iff_fieldsAlike hrests (Fields.ordered_cons.mp hfields).2
      (Fields.ordered_cons.mp hothers).2 hv.2 hw.2
    rw [FieldsSame, FieldsAlike, Fields.get?_cons_self, ← hrest]
    constructor
    · rintro ⟨⟨found, hfound, hsame⟩, hothers⟩
      cases hfound
      exact ⟨rfl, (same_iff_alike hv.1 hw.1).mp hsame, hothers.congr hget⟩
    · rintro ⟨-, halike, hsame⟩
      exact ⟨⟨w, rfl, (same_iff_alike hv.1 hw.1).mpr halike⟩,
        hsame.congr fun other hother => (hget other hother).symm⟩

end

/-! ## Streams of values -/

/-- A value as a digest gets it: its objects are maps, and every length fits the word in front of
its content. -/
structure Storable (v : Value) : Prop where
  ordered : v.Ordered
  counts : CountsFit v
  lengths : ∀ call ∈ calls v, call.Fits

variable {v w : Value}

lemma Storable.same_iff_calls_eq (hv : Storable v) (hw : Storable w) :
    Same v w ↔ calls v = calls w :=
  (same_iff_alike hv.ordered hw.ordered).trans (alike_iff_calls_eq hv.counts hw.counts)

/-- The calls of one value do not go on where those of another end. -/
lemma Storable.eq_nil_of_append (hv : Storable v) (hw : Storable w) {more : List Call}
    (h : calls w = calls v ++ more) : more = [] := by
  have happend : valueCalls v ++ more = valueCalls w ++ [] := by
    rw [List.append_nil]
    exact h.symm
  exact (valueCalls_append_inj v w more [] hv.counts hw.counts happend).2

/-- The bytes of a value are told apart from what follows them. -/
lemma Storable.stream_append_eq_iff (hv : Storable v) (hw : Storable w) (r s : List UInt8) :
    stream (calls v) ++ r = stream (calls w) ++ s ↔ Same v w ∧ r = s := by
  rw [hv.same_iff_calls_eq hw]
  constructor
  · intro h
    rcases stream_append_comparable hv.lengths hw.lengths h with
      ⟨more, hcalls, hrest⟩ | ⟨more, hcalls, hrest⟩
    · obtain rfl := hv.eq_nil_of_append hw hcalls
      exact ⟨by rw [hcalls, List.append_nil], hrest⟩
    · obtain rfl := hw.eq_nil_of_append hv hcalls
      exact ⟨by rw [hcalls, List.append_nil], hrest.symm⟩
  · rintro ⟨hcalls, rfl⟩
    rw [hcalls]

/-- What reaches a digest is determined by its bytes.  Lists of calls that write the same bytes are
equal.  The bytes of a value at the front of a byte string determine the value and the rest, and
values that are the same have the same bytes.  The streams behind two keys are equal exactly when
their domains are equal and their values are the same.  The order in which the fields of an object
were given leaves no trace in its bytes. -/
theorem digested_content_unique :
    (∀ calls others : List Call, (∀ c ∈ calls, c.Fits) → (∀ c ∈ others, c.Fits) →
      (stream calls = stream others ↔ calls = others)) ∧
    (∀ v w : Value, Storable v → Storable w → ∀ r s : List UInt8,
      stream (calls v) ++ r = stream (calls w) ++ s ↔ Same v w ∧ r = s) ∧
    (∀ (domain domain' : String) (v w : Value), (Call.tag domain).Fits → (Call.tag domain').Fits →
      Storable v → Storable w →
      (keyStream domain (calls v) = keyStream domain' (calls w) ↔
        domain = domain' ∧ Same v w)) ∧
    (∀ entries others : Fields, entries.Perm others → (entries.map Prod.fst).Nodup →
      stream (calls (Value.object (Fields.ofList entries))) =
        stream (calls (Value.object (Fields.ofList others)))) := by
  refine ⟨?_, ?_, ?_, ?_⟩
  · intro calls others hcalls hothers
    exact ⟨stream_inj hcalls hothers, congrArg stream⟩
  · intro v w hv hw r s
    exact hv.stream_append_eq_iff hw r s
  · intro domain domain' v w hdomain hdomain' hv hw
    rw [keyStream, keyStream, stream_cons, stream_cons]
    have hvalues := hv.stream_append_eq_iff hw [] []
    rw [List.append_nil, List.append_nil, and_iff_left rfl] at hvalues
    constructor
    · intro h
      obtain ⟨htag, hrest⟩ := Call.stream_append_inj hdomain hdomain' h
      exact ⟨Call.tag.inj htag, hvalues.mp hrest⟩
    · rintro ⟨rfl, hsame⟩
      rw [hvalues.mpr hsame]
  · intro entries others hperm hnodup
    rw [Fields.ofList_eq_of_perm hperm hnodup]

lemma storable_of_ofText? {text : String} (htext : Value.ofText? text = some v)
    (hshort : (stream (calls v)).length < 2 ^ 64) : Storable v where
  ordered := Value.ordered_of_ofText? htext
  counts := countsFit_of_length v (Nat.lt_of_le_of_lt (length_le_length_stream _) hshort)
  lengths := fits_of_length_stream hshort

/-- An object with a number and a list that holds a text. -/
def pairValue (text : String) : Value :=
  .object [("x", .number (.natural 1)), ("y", .array [.bool true, .string text])]

lemma text_eq_of_same_pairValue {text text' : String}
    (h : Same (pairValue text) (pairValue text')) : text = text' := by
  obtain ⟨-, -, ⟨w, hw, hsame⟩, -⟩ := h
  have hget : some w = some (.array [.bool true, .string text']) := hw.symm
  cases hget
  exact hsame.2.1

/-- Documents that list the same fields in two orders have one stream.  It is another one in another
domain, or with one more letter in the nested text, and texts do not run into each other. -/
theorem digested_content_unique_pair :
    Value.ofText? "\x7b\"x\": 1, \"y\": [true, \"z\"]\x7d" = some (pairValue "z") ∧
      Value.ofText? "\x7b\"y\": [true, \"z\"], \"x\": 1\x7d" = some (pairValue "z") ∧
      Value.ofText? "\x7b\"x\": 1, \"y\": [true, \"zz\"]\x7d" = some (pairValue "zz") ∧
      keyStream "t" (calls (pairValue "z")) ≠ keyStream "t" (calls (pairValue "zz")) ∧
      keyStream "t" (calls (pairValue "z")) ≠ keyStream "s" (calls (pairValue "z")) ∧
      stream [.text "ab", .text "c"] ≠ stream [.text "a", .text "bc"] := by
  obtain ⟨hcalls, -, hkeys, -⟩ := digested_content_unique
  have hz : Value.ofText? "\x7b\"x\": 1, \"y\": [true, \"z\"]\x7d" = some (pairValue "z") := rfl
  have hzz : Value.ofText? "\x7b\"x\": 1, \"y\": [true, \"zz\"]\x7d" = some (pairValue "zz") :=
    rfl
  have hstored : Storable (pairValue "z") := storable_of_ofText? hz (by decide +kernel)
  have hstored' : Storable (pairValue "zz") := storable_of_ofText? hzz (by decide +kernel)
  have htag : (Call.tag "t").Fits := by decide +kernel
  have htag' : (Call.tag "s").Fits := by decide +kernel
  refine ⟨hz, rfl, hzz, ?_, ?_, ?_⟩
  · intro h
    have hsame := ((hkeys "t" "t" _ _ htag htag hstored hstored').mp h).2
    exact absurd (text_eq_of_same_pairValue hsame) (by decide)
  · intro h
    exact absurd ((hkeys "t" "s" _ _ htag htag' hstored hstored).mp h).1 (by decide)
  · intro h
    have heq := (hcalls [.text "ab", .text "c"] [.text "a", .text "bc"] (by decide +kernel)
      (by decide +kernel)).mp h
    exact absurd heq (by decide)

end Cartridge.Digest
