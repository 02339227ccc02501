import Mathlib.Algebra.Group.Nat.Defs
import Mathlib.Data.List.Nodup
import Mathlib.Tactic.Common
import Cartridge.Digest.Key
import Cartridge.Proofs.Digest.Evaluation

/-!
# Reading digested bytes back

The bytes fed to a digest determine the calls that wrote them, as long as every length fits the
word in front of its content (`stream_inj`), and the calls of a JSON value determine the value up
to the kinds of its numbers, which count by their text (`alike_iff_calls_eq`).  So two keys of one
domain that are equal either belong to equal content or are a collision of the digest.

Both facts are proved with something behind what is read.  Calls with arbitrary bytes behind them
are the same up to where the shorter list ends (`stream_append_comparable`), and a value is told
apart from the calls behind it (`valueCalls_append_inj`).
-/

namespace Cartridge.Digest

open Cartridge.Json

/-! ## Words and sized content -/

/-- A word is put together again from its bytes. -/
lemma wordBytes_inj {m n : UInt64} (h : wordBytes m = wordBytes n) : m = n := by
  have hbytes := congrArg (List.map UInt8.toNat) h
  simp only [wordBytes, List.map_cons, UInt64.toNat_toUInt8, Nat.reducePow,
    UInt64.toNat_shiftRight, UInt64.reduceToNat, Nat.reduceMod, Nat.shiftRight_eq_div_pow,
    List.map_nil, List.cons.injEq, and_true] at hbytes
  have hm := UInt64.toNat_lt m
  have hn := UInt64.toNat_lt n
  apply UInt64.toNat_inj.mp
  omega

lemma ofNat_inj {m n : Nat} (hm : m < 2 ^ 64) (hn : n < 2 ^ 64)
    (h : UInt64.ofNat m = UInt64.ofNat n) : m = n := by
  have htoNat := congrArg UInt64.toNat h
  rwa [UInt64.toNat_ofNat_of_lt' hm, UInt64.toNat_ofNat_of_lt' hn] at htoNat

variable {calls others : List Call} {r s : List UInt8}

lemma wordBytes_append_inj {m n : UInt64} (h : wordBytes m ++ r = wordBytes n ++ s) :
    m = n ∧ r = s := by
  obtain ⟨hword, hrest⟩ := List.append_inj h rfl
  exact ⟨wordBytes_inj hword, hrest⟩

/-- Content with its length in front is told apart from what follows. -/
lemma sized_append_inj {a b : List UInt8} (ha : a.length < 2 ^ 64) (hb : b.length < 2 ^ 64)
    (h : sized a ++ r = sized b ++ s) : a = b ∧ r = s := by
  rw [sized, sized, List.append_assoc, List.append_assoc] at h
  obtain ⟨hlength, hrest⟩ := wordBytes_append_inj h
  exact List.append_inj hrest (ofNat_inj ha hb hlength)

lemma utf8_inj {s t : String} (h : Text.utf8 s = Text.utf8 t) : s = t := by
  rw [Text.utf8, Text.utf8, Array.toList_inj] at h
  exact String.toByteArray_inj.mp (ByteArray.ext h)

/-! ## Calls -/

lemma one_le_length_stream (c : Call) : 1 ≤ c.stream.length := by
  cases c <;> simp [Call.stream]

/-- The length that is written in front of the content of a call, if there is one. -/
def Call.contentLength : Call → Nat
  | .tag name => (Text.utf8 name).length
  | .text s => (Text.utf8 s).length
  | .bytes content => content.length
  | _ => 0

/-- The length of the content fits the word in front of it. -/
def Call.Fits (c : Call) : Prop :=
  c.contentLength < 2 ^ 64

instance (c : Call) : Decidable c.Fits :=
  inferInstanceAs (Decidable (c.contentLength < 2 ^ 64))

lemma Call.contentLength_le (c : Call) : c.contentLength ≤ c.stream.length := by
  cases c <;>
    simp only [contentLength, Call.stream, sized, List.length_cons, List.length_append] <;> omega

/-- A call is told apart from what follows it. -/
lemma Call.stream_append_inj {c d : Call} (hc : c.Fits) (hd : d.Fits)
    (h : c.stream ++ r = d.stream ++ s) : c = d ∧ r = s := by
  -- the mark in front decides the kind
  cases c with
  | tag a =>
    cases d with
    | tag b =>
      obtain ⟨hname, hrest⟩ := sized_append_inj hc hd (List.cons.inj h).2
      exact ⟨congrArg _ (utf8_inj hname), hrest⟩
    | _ => simp [Call.stream] at h
  | text a =>
    cases d with
    | text b =>
      obtain ⟨htext, hrest⟩ := sized_append_inj hc hd (List.cons.inj h).2
      exact ⟨congrArg _ (utf8_inj htext), hrest⟩
    | _ => simp [Call.stream] at h
  | bytes a =>
    cases d with
    | bytes b =>
      obtain ⟨hcontent, hrest⟩ := sized_append_inj hc hd (List.cons.inj h).2
      exact ⟨congrArg _ hcontent, hrest⟩
    | _ => simp [Call.stream] at h
  | word m =>
    cases d with
    | word n =>
      obtain ⟨hword, hrest⟩ := wordBytes_append_inj (List.cons.inj h).2
      exact ⟨congrArg _ hword, hrest⟩
    | _ => simp [Call.stream] at h
  | integer m =>
    cases d with
    | integer n =>
      obtain ⟨hword, hrest⟩ := wordBytes_append_inj (List.cons.inj h).2
      exact ⟨congrArg _ (congrArg Int64.ofUInt64 hword), hrest⟩
    | _ => simp [Call.stream] at h
  | flag a =>
    cases d with
    | flag b => cases a <;> cases b <;> simp_all [Call.stream]
    | _ => simp [Call.stream] at h
  | none =>
    cases d with
    | none => exact ⟨rfl, (List.cons.inj h).2⟩
    | _ => simp [Call.stream] at h

lemma stream_cons (c : Call) (calls : List Call) : stream (c :: calls) = c.stream ++ stream calls :=
  rfl

lemma length_le_length_stream (calls : List Call) : calls.length ≤ (stream calls).length := by
  induction calls with
  | nil => simp
  | cons c rest ih =>
    have hc := one_le_length_stream c
    rw [stream_cons, List.length_cons, List.length_append]
    omega

lemma stream_eq_nil (h : stream calls = []) : calls = [] := by
  have hlength := length_le_length_stream calls
  rw [h, List.length_nil] at hlength
  exact List.length_eq_zero_iff.mp (Nat.le_zero.mp hlength)

lemma fits_of_length_stream (h : (stream calls).length < 2 ^ 64) :
    ∀ c ∈ calls, c.Fits := by
  intro c hc
  have hle : c.stream.length ≤ (calls.map Call.stream).flatten.length :=
    (List.sublist_flatten_of_mem (List.mem_map_of_mem hc)).length_le
  rw [stream, List.flatMap_def] at h
  exact Nat.lt_of_le_of_lt (Nat.le_trans c.contentLength_le hle) h

/-- Where calls with bytes behind them agree, one list of calls starts with the other, and the
calls that are left wrote the first of the bytes behind the shorter list. -/
lemma stream_append_comparable (hcalls : ∀ c ∈ calls, c.Fits) (hothers : ∀ c ∈ others, c.Fits)
    (h : stream calls ++ r = stream others ++ s) :
    (∃ more, others = calls ++ more ∧ r = stream more ++ s) ∨
      ∃ more, calls = others ++ more ∧ s = stream more ++ r := by
  induction calls generalizing others with
  | nil => exact .inl ⟨others, rfl, h⟩
  | cons c calls ih =>
    cases others with
    | nil => exact .inr ⟨c :: calls, rfl, h.symm⟩
    | cons d others =>
      rw [List.forall_mem_cons] at hcalls hothers
      rw [stream_cons, stream_cons, List.append_assoc, List.append_assoc] at h
      obtain ⟨rfl, hrest⟩ := Call.stream_append_inj hcalls.1 hothers.1 h
      rcases ih hcalls.2 hothers.2 hrest with ⟨more, rfl, hmore⟩ | ⟨more, rfl, hmore⟩
      · exact .inl ⟨more, rfl, hmore⟩
      · exact .inr ⟨more, rfl, hmore⟩

/-- The bytes of calls determine the calls. -/
lemma stream_inj (hcalls : ∀ c ∈ calls, c.Fits) (hothers : ∀ c ∈ others, c.Fits)
    (h : stream calls = stream others) : calls = others := by
  have happend : stream calls ++ [] = stream others ++ [] := by rw [h]
  rcases stream_append_comparable hcalls hothers happend with
    ⟨more, rfl, hmore⟩ | ⟨more, rfl, hmore⟩
  · rw [stream_eq_nil (List.append_eq_nil_iff.mp hmore.symm).1, List.append_nil]
  · rw [stream_eq_nil (List.append_eq_nil_iff.mp hmore.symm).1, List.append_nil]

/-! ## Keys -/

lemma Key.text_injective : Function.Injective Key.text := by
  rintro ⟨text⟩ ⟨other⟩ rfl
  rfl

lemma hexChar_inj {m n : Nat} (hm : m < 16) (hn : n < 16)
    (h : Text.hexChar false m = Text.hexChar false n) : m = n := by
  have hall : ∀ i j : Fin 16, Text.hexChar false i = Text.hexChar false j → i = j := by decide
  exact congrArg Fin.val (hall ⟨m, hm⟩ ⟨n, hn⟩ h)

lemma hexOf_inj {bytes others : List UInt8} (h : Text.hexOf bytes = Text.hexOf others) :
    bytes = others := by
  replace h := String.ofList_injective h
  induction bytes generalizing others with
  | nil =>
    cases others with
    | nil => rfl
    | cons b others => simp [Text.hexByte] at h
  | cons a bytes ih =>
    cases others with
    | nil => simp [Text.hexByte] at h
    | cons b others =>
      simp only [List.flatMap_cons, Text.hexByte, List.cons_append, List.nil_append,
        List.cons.injEq] at h
      obtain ⟨hhigh, hlow, hrest⟩ := h
      have ha := UInt8.toNat_lt a
      have hb := UInt8.toNat_lt b
      have hdiv := hexChar_inj (by omega) (by omega) hhigh
      have hmod := hexChar_inj (Nat.mod_lt _ (by omega)) (Nat.mod_lt _ (by omega)) hlow
      rw [ih hrest, UInt8.toNat_inj.mp (show a.toNat = b.toNat by omega)]

/-- The digest tells the messages apart, and they are short enough for their length to count: the
digest is defined for fewer than `2 ^ 64` bits. -/
structure CollisionFree (IsMessage : List UInt8 → Prop) : Prop where
  short : ∀ m, IsMessage m → m.length < 2 ^ 61
  injective : ∀ m n, IsMessage m → IsMessage n →
    Sha256.digest ⟨m.toArray⟩ = Sha256.digest ⟨n.toArray⟩ → m = n

/-- A list of messages is enough to look at. -/
lemma CollisionFree.of_list {IsMessage : List UInt8 → Prop} {messages : List (List UInt8)}
    (h : ∀ m, IsMessage m → m ∈ messages) (hshort : ∀ m ∈ messages, m.length < 2 ^ 61)
    (hdigests : (messages.map Sha256.evaluate).Nodup) : CollisionFree IsMessage := by
  refine ⟨fun m hm => hshort m (h m hm), fun m n hm hn hdigest => ?_⟩
  refine List.inj_on_of_nodup_map hdigests (h m hm) (h n hn) ?_
  rw [← Sha256.map_toNat_digest, ← Sha256.map_toNat_digest, hdigest]

/-- Without a collision, keys of one domain are equal only if the calls are. -/
lemma CollisionFree.ofCalls_inj {IsMessage : List UInt8 → Prop} (h : CollisionFree IsMessage)
    {domain : String} (hcalls : IsMessage (keyStream domain calls))
    (hothers : IsMessage (keyStream domain others))
    (hkey : Key.ofCalls domain calls = Key.ofCalls domain others) : calls = others := by
  have hdigest := hexOf_inj (congrArg Key.text hkey)
  have hstream := h.injective _ _ hcalls hothers hdigest
  have hshort := h.short _ hcalls
  have hshort' := h.short _ hothers
  rw [keyStream] at hshort hshort'
  have hall := stream_inj (fits_of_length_stream (by omega)) (fits_of_length_stream (by omega))
    hstream
  exact (List.cons.inj hall).2

/-! ## Values -/

mutual

/-- Values that differ at most in the kinds of numbers with the same text. -/
def Alike : Value → Value → Prop
  | .null, .null => True
  | .bool b, .bool b' => b = b'
  | .number n, .number n' => n.text = n'.text
  | .string s, .string s' => s = s'
  | .array items, .array items' => ItemsAlike items items'
  | .object fields, .object fields' => FieldsAlike fields fields'
  | _, _ => False

/-- Items that are alike one by one. -/
def ItemsAlike : List Value → List Value → Prop
  | [], [] => True
  | v :: rest, w :: rest' => Alike v w ∧ ItemsAlike rest rest'
  | _, _ => False

/-- Fields with the same names and values that are alike. -/
def FieldsAlike : Fields → Fields → Prop
  | [], [] => True
  | (name, v) :: rest, (name', w) :: rest' => name = name' ∧ Alike v w ∧ FieldsAlike rest rest'
  | _, _ => False

end

mutual

lemma Alike.refl : ∀ v : Value, Alike v v
  | .null => trivial
  | .bool _ => rfl
  | .number _ => rfl
  | .string _ => rfl
  | .array items => ItemsAlike.refl items
  | .object fields => FieldsAlike.refl fields

lemma ItemsAlike.refl : ∀ items : List Value, ItemsAlike items items
  | [] => trivial
  | v :: rest => ⟨.refl v, .refl rest⟩

lemma FieldsAlike.refl : ∀ fields : Fields, FieldsAlike fields fields
  | [] => trivial
  | (_, v) :: rest => ⟨rfl, .refl v, .refl rest⟩

end

lemma FieldsAlike.names_eq : ∀ {fields fields' : Fields}, FieldsAlike fields fields' →
    fields.map Prod.fst = fields'.map Prod.fst
  | [], [], _ => rfl
  | (name, v) :: rest, (name', w) :: rest', h => by
    rw [FieldsAlike] at h
    rw [List.map_cons, List.map_cons, h.1, h.2.2.names_eq]

mutual

/-- The number of entries of every array and object in a value fits a word. -/
def CountsFit : Value → Prop
  | .array items => items.length < 2 ^ 64 ∧ ItemCountsFit items
  | .object fields => fields.length < 2 ^ 64 ∧ FieldCountsFit fields
  | _ => True

/-- The same for the items of an array. -/
def ItemCountsFit : List Value → Prop
  | [] => True
  | v :: rest => CountsFit v ∧ ItemCountsFit rest

/-- The same for the fields of an object. -/
def FieldCountsFit : Fields → Prop
  | [] => True
  | (_, v) :: rest => CountsFit v ∧ FieldCountsFit rest

end

lemma length_itemCalls (items : List Value) : items.length ≤ (itemCalls items).length := by
  induction items with
  | nil => simp
  | cons v rest ih =>
    have hv : 1 ≤ (valueCalls v).length := by cases v <;> simp [valueCalls]
    rw [itemCalls, List.length_cons, List.length_append]
    omega

lemma length_fieldCalls (fields : Fields) : fields.length ≤ (fieldCalls fields).length := by
  induction fields with
  | nil => simp
  | cons field rest ih =>
    rw [fieldCalls, List.length_cons, List.length_cons, List.length_append]
    omega

mutual

/-- Every entry makes a call, so few calls come from few entries. -/
lemma countsFit_of_length : ∀ v : Value, (valueCalls v).length < 2 ^ 64 → CountsFit v
  | .null, _ => trivial
  | .bool _, _ => trivial
  | .number _, _ => trivial
  | .string _, _ => trivial
  | .array items, h => by
    have hitems := length_itemCalls items
    simp only [valueCalls, List.length_cons] at h
    exact ⟨by omega, itemCountsFit_of_length items (by omega)⟩
  | .object fields, h => by
    have hfields := length_fieldCalls fields
    simp only [valueCalls, List.length_cons] at h
    exact ⟨by omega, fieldCountsFit_of_length fields (by omega)⟩

lemma itemCountsFit_of_length :
    ∀ items : List Value, (itemCalls items).length < 2 ^ 64 → ItemCountsFit items
  | [], _ => trivial
  | v :: rest, h => by
    rw [itemCalls, List.length_append] at h
    exact ⟨countsFit_of_length v (by omega), itemCountsFit_of_length rest (by omega)⟩

lemma fieldCountsFit_of_length :
    ∀ fields : Fields, (fieldCalls fields).length < 2 ^ 64 → FieldCountsFit fields
  | [], _ => trivial
  | (name, v) :: rest, h => by
    rw [fieldCalls, List.length_cons, List.length_append] at h
    exact ⟨countsFit_of_length v (by omega), fieldCountsFit_of_length rest (by omega)⟩

end

mutual

/-- The calls of a value are told apart from those that follow. -/
lemma valueCalls_append_inj :
    ∀ (v w : Value) (r s : List Call), CountsFit v → CountsFit w →
      valueCalls v ++ r = valueCalls w ++ s → Alike v w ∧ r = s
  | .null, w, r, s, _, _, h => by
    cases w <;> simp_all [valueCalls, Alike]
  | .bool b, w, r, s, _, _, h => by
    cases w <;> simp_all [valueCalls, Alike]
  | .number n, w, r, s, _, _, h => by
    cases w <;> simp_all [valueCalls, Alike]
  | .string t, w, r, s, _, _, h => by
    cases w <;> simp_all [valueCalls, Alike]
  | .array items, w, r, s, hv, hw, h => by
    cases w with
    | array items' =>
      rw [CountsFit] at hv hw
      simp only [valueCalls, List.cons_append, List.cons.injEq, true_and, countCall,
        Call.word.injEq] at h
      have hlength := ofNat_inj hv.1 hw.1 h.1
      rw [Alike]
      exact itemCalls_append_inj items items' r s hlength hv.2 hw.2 h.2
    | _ => simp [valueCalls] at h
  | .object fields, w, r, s, hv, hw, h => by
    cases w with
    | object fields' =>
      rw [CountsFit] at hv hw
      simp only [valueCalls, List.cons_append, List.cons.injEq, true_and, countCall,
        Call.word.injEq] at h
      have hlength := ofNat_inj hv.1 hw.1 h.1
      rw [Alike]
      exact fieldCalls_append_inj fields fields' r s hlength hv.2 hw.2 h.2
    | _ => simp [valueCalls] at h

lemma itemCalls_append_inj :
    ∀ (items items' : List Value) (r s : List Call), items.length = items'.length →
      ItemCountsFit items → ItemCountsFit items' →
      itemCalls items ++ r = itemCalls items' ++ s → ItemsAlike items items' ∧ r = s
  | [], [], r, s, _, _, _, h => ⟨trivial, h⟩
  | v :: rest, w :: rest', r, s, hlength, hv, hw, h => by
    simp only [itemCalls, List.append_assoc] at h
    obtain ⟨hhead, htail⟩ := valueCalls_append_inj v w _ _ hv.1 hw.1 h
    obtain ⟨hrest, heq⟩ := itemCalls_append_inj rest rest' r s (Nat.succ.inj hlength) hv.2 hw.2
      htail
    exact ⟨⟨hhead, hrest⟩, heq⟩

lemma fieldCalls_append_inj :
    ∀ (fields fields' : Fields) (r s : List Call), fields.length = fields'.length →
      FieldCountsFit fields → FieldCountsFit fields' →
      fieldCalls fields ++ r = fieldCalls fields' ++ s → FieldsAlike fields fields' ∧ r = s
  | [], [], r, s, _, _, _, h => ⟨trivial, h⟩
  | (name, v) :: rest, (name', w) :: rest', r, s, hlength, hv, hw, h => by
    simp only [fieldCalls, List.cons_append, List.append_assoc, List.cons.injEq,
      Call.text.injEq] at h
    obtain ⟨hhead, htail⟩ := valueCalls_append_inj v w _ _ hv.1 hw.1 h.2
    obtain ⟨hrest, heq⟩ := fieldCalls_append_inj rest rest' r s (Nat.succ.inj hlength) hv.2 hw.2
      htail
    exact ⟨⟨h.1, hhead, hrest⟩, heq⟩

end

mutual

/-- Values that are alike are digested alike. -/
lemma Alike.calls_eq : ∀ {v w : Value}, Alike v w → valueCalls v = valueCalls w
  | .null, w, h => by cases w <;> simp_all [valueCalls, Alike]
  | .bool b, w, h => by cases w <;> simp_all [valueCalls, Alike]
  | .number n, w, h => by cases w <;> simp_all [valueCalls, Alike]
  | .string t, w, h => by cases w <;> simp_all [valueCalls, Alike]
  | .array items, w, h => by
    cases w with
    | array items' =>
      rw [Alike] at h
      rw [valueCalls, valueCalls, h.calls_eq.1, h.calls_eq.2]
    | _ => simp [Alike] at h
  | .object fields, w, h => by
    cases w with
    | object fields' =>
      rw [Alike] at h
      rw [valueCalls, valueCalls, h.calls_eq.1, h.calls_eq.2]
    | _ => simp [Alike] at h

lemma ItemsAlike.calls_eq : ∀ {items items' : List Value}, ItemsAlike items items' →
    items.length = items'.length ∧ itemCalls items = itemCalls items'
  | [], [], _ => ⟨rfl, rfl⟩
  | v :: rest, w :: rest', h => by
    rw [ItemsAlike] at h
    obtain ⟨hlength, hcalls⟩ := h.2.calls_eq
    rw [itemCalls, itemCalls, h.1.calls_eq, hcalls]
    exact ⟨congrArg Nat.succ hlength, rfl⟩

lemma FieldsAlike.calls_eq : ∀ {fields fields' : Fields}, FieldsAlike fields fields' →
    fields.length = fields'.length ∧ fieldCalls fields = fieldCalls fields'
  | [], [], _ => ⟨rfl, rfl⟩
  | (name, v) :: rest, (name', w) :: rest', h => by
    rw [FieldsAlike] at h
    obtain ⟨hlength, hcalls⟩ := h.2.2.calls_eq
    rw [fieldCalls, fieldCalls, h.1, h.2.1.calls_eq, hcalls]
    exact ⟨congrArg Nat.succ hlength, rfl⟩

end

/-- The calls of a value determine it up to the kinds of its numbers. -/
lemma alike_iff_calls_eq {v w : Value} (hv : CountsFit v) (hw : CountsFit w) :
    Alike v w ↔ valueCalls v = valueCalls w := by
  refine ⟨Alike.calls_eq, fun h => ?_⟩
  exact (valueCalls_append_inj v w [] [] hv hw (by rw [h])).1

end Cartridge.Digest
