import Mathlib.Logic.Function.Iterate
import Cartridge.Digest.Sha256

/-!
# Evaluating digests

Digests of fixed messages are compared in proofs, and the kernel computes with natural numbers much
faster than with machine words and arrays.  `evaluate` computes a digest with numbers in lists, and
reads the message once from front to back; `map_toNat_digest` says that it gives the digest.
-/

namespace Cartridge.Digest.Sha256

/-! ## Words as numbers -/

/-- The eight words of a state as numbers. -/
structure Registers where
  a : Nat
  b : Nat
  c : Nat
  d : Nat
  e : Nat
  f : Nat
  g : Nat
  h : Nat

/-- The number of a word whose bits are moved to the right in a circle. -/
def rotated (x n : Nat) : Nat :=
  x >>> n ||| x <<< (32 - n) % 4294967296

namespace Registers

/-- One round with a round constant and a word of the schedule. -/
def round (r : Registers) (k w : Nat) : Registers :=
  let s1 := rotated r.e 6 ^^^ rotated r.e 11 ^^^ rotated r.e 25
  let choice := (r.e &&& r.f) ^^^ ((4294967295 - r.e) &&& r.g)
  let t1 := r.h + s1 + choice + k + w
  let s0 := rotated r.a 2 ^^^ rotated r.a 13 ^^^ rotated r.a 22
  let majority := (r.a &&& r.b) ^^^ (r.a &&& r.c) ^^^ (r.b &&& r.c)
  ⟨(t1 + (s0 + majority)) % 4294967296, r.a, r.b, r.c, (r.d + t1) % 4294967296, r.e, r.f, r.g⟩

/-- The sum of two states, word by word. -/
def add (r t : Registers) : Registers :=
  ⟨(r.a + t.a) % 4294967296, (r.b + t.b) % 4294967296, (r.c + t.c) % 4294967296,
    (r.d + t.d) % 4294967296, (r.e + t.e) % 4294967296, (r.f + t.f) % 4294967296,
    (r.g + t.g) % 4294967296, (r.h + t.h) % 4294967296⟩

end Registers

/-- The words of a state as numbers. -/
def State.registers (s : State) : Registers :=
  ⟨s.a.toNat, s.b.toNat, s.c.toNat, s.d.toNat, s.e.toNat, s.f.toNat, s.g.toNat, s.h.toNat⟩

lemma toNat_rotate (x : UInt32) {n : UInt32} (h : 0 < n.toNat ∧ n.toNat < 32) :
    (rotate x n).toNat = rotated x.toNat n.toNat := by
  obtain ⟨hpos, hlt⟩ := h
  have hsub : (32 - n).toNat = 32 - n.toNat :=
    UInt32.toNat_sub_of_le _ _ (UInt32.le_iff_toNat_le.mpr (Nat.le_of_lt hlt))
  have hleft : (32 - n.toNat) % 32 = 32 - n.toNat := Nat.mod_eq_of_lt (by omega)
  rw [rotate, UInt32.toNat_or, UInt32.toNat_shiftRight, UInt32.toNat_shiftLeft, hsub,
    Nat.mod_eq_of_lt hlt, hleft, rotated]

lemma registers_round (s : State) (k w : UInt32) :
    (s.round k w).registers = s.registers.round k.toNat w.toNat := by
  simp [State.registers, State.round, Registers.round, UInt32.toNat_add, toNat_rotate]

lemma registers_add (s t : State) : (s.add t).registers = s.registers.add t.registers := by
  simp [State.registers, State.add, Registers.add, UInt32.toNat_add]

/-! ## Loops -/

lemma fold_eq_foldl {α : Type} (step : α → Nat → α) (n : Nat) (init : α) :
    Nat.fold n (fun i _ a => step a i) init = (List.range n).foldl step init := by
  induction n with
  | zero => rfl
  | succ n ih => rw [Nat.fold_succ, ih, List.range_succ, List.foldl_append]; rfl

lemma foldl_push_eq {α : Type} (item : Nat → α) (n : Nat) :
    (List.range n).foldl (fun items i => items.push (item i)) #[] =
      ((List.range n).map item).toArray := by
  induction n with
  | zero => rfl
  | succ n ih =>
    rw [List.range_succ, List.foldl_append, ih, List.map_append]
    simp

/-! ## The schedule -/

/-- The number of the word after sixteen words. -/
def following (w0 w1 w9 w14 : Nat) : Nat :=
  let s0 := rotated w1 7 ^^^ rotated w1 18 ^^^ w1 >>> 3
  let s1 := rotated w14 17 ^^^ rotated w14 19 ^^^ w14 >>> 10
  (w0 + s0 + w9 + s1) % 4294967296

/-- Words from a window of sixteen on, `n` more than the window has. -/
def expand : Nat → List Nat → List Nat
  | n + 1, [w0, w1, w2, w3, w4, w5, w6, w7, w8, w9, w10, w11, w12, w13, w14, w15] =>
    w0 :: expand n [w1, w2, w3, w4, w5, w6, w7, w8, w9, w10, w11, w12, w13, w14, w15,
      following w0 w1 w9 w14]
  | _, words => words

/-- The words with the next word of the schedule. -/
def grow (words : Array UInt32) : Array UInt32 :=
  words.push (nextWord words words.size)

lemma size_iterate_grow (n : Nat) (words : Array UInt32) :
    (grow^[n] words).size = words.size + n := by
  induction n with
  | zero => rfl
  | succ n ih => rw [Function.iterate_succ_apply', grow, Array.size_push, ih]; rfl

lemma foldl_eq_iterate_grow {first : Array UInt32} (h : first.size = 16) (n : Nat) :
    (List.range n).foldl (fun words i => words.push (nextWord words (i + 16))) first =
      grow^[n] first := by
  induction n with
  | zero => rfl
  | succ n ih =>
    have hsize : (grow^[n] first).size = n + 16 := by
      rw [size_iterate_grow, h, Nat.add_comm]
    rw [List.range_succ, List.foldl_append, ih, Function.iterate_succ_apply', grow, hsize]
    rfl

lemma toNat_nextWord (front : List UInt32)
    (w0 w1 w2 w3 w4 w5 w6 w7 w8 w9 w10 w11 w12 w13 w14 w15 : UInt32) :
    (nextWord (front ++ [w0, w1, w2, w3, w4, w5, w6, w7, w8, w9, w10, w11, w12, w13, w14,
        w15]).toArray (front.length + 16)).toNat =
      following w0.toNat w1.toNat w9.toNat w14.toNat := by
  have hget : ∀ k ≤ 16, ∀ window : List UInt32,
      (front ++ window).toArray.getD (front.length + 16 - k) 0 = window.getD (16 - k) 0 := by
    intro k hk window
    rw [Nat.add_sub_assoc hk]
    simp [List.getElem?_append_right]
  rw [nextWord, hget 15 (by decide), hget 2 (by decide), hget 16 (by decide), hget 7 (by decide)]
  simp [following, UInt32.toNat_add, toNat_rotate]

lemma map_toNat_iterate_grow (n : Nat) (front : List UInt32)
    (w0 w1 w2 w3 w4 w5 w6 w7 w8 w9 w10 w11 w12 w13 w14 w15 : UInt32) :
    (grow^[n] (front ++ [w0, w1, w2, w3, w4, w5, w6, w7, w8, w9, w10, w11, w12, w13, w14,
        w15]).toArray).toList.map UInt32.toNat =
      front.map UInt32.toNat ++ expand n ([w0, w1, w2, w3, w4, w5, w6, w7, w8, w9, w10, w11, w12,
        w13, w14, w15].map UInt32.toNat) := by
  induction n generalizing front w0 w1 w2 w3 w4 w5 w6 w7 w8 w9 w10 w11 w12 w13 w14 w15 with
  | zero => simp [expand]
  | succ n ih =>
    -- the first word of the window is done, and the window moves on by one
    have hnext := toNat_nextWord front w0 w1 w2 w3 w4 w5 w6 w7 w8 w9 w10 w11 w12 w13 w14 w15
    have hgrow := ih (front ++ [w0]) w1 w2 w3 w4 w5 w6 w7 w8 w9 w10 w11 w12 w13 w14 w15
      (nextWord (front ++ [w0, w1, w2, w3, w4, w5, w6, w7, w8, w9, w10, w11, w12, w13, w14,
        w15]).toArray (front.length + 16))
    rw [Function.iterate_succ_apply, grow]
    simp only [List.append_assoc, List.singleton_append, List.map_append, List.map_cons,
      List.map_nil, hnext] at hgrow
    simpa [expand] using hgrow

/-- The numbers of sixteen words from a place on. -/
def windowAt (message : ByteArray) (start : Nat) : List Nat :=
  (List.range 16).map fun i => (wordAt message (start + 4 * i)).toNat

lemma schedule_eq (message : ByteArray) (start : Nat) :
    (schedule message start).size = 64 ∧
      (schedule message start).toList.map UInt32.toNat = expand 48 (windowAt message start) := by
  have hfirst : Nat.fold 16 (fun i _ words => words.push (wordAt message (start + 4 * i)))
      (Array.emptyWithCapacity 64) =
        ((List.range 16).map fun i => wordAt message (start + 4 * i)).toArray := by
    rw [fold_eq_foldl fun (words : Array UInt32) i => words.push (wordAt message (start + 4 * i))]
    exact foldl_push_eq _ 16
  have hschedule : schedule message start =
      grow^[48] ((List.range 16).map fun i => wordAt message (start + 4 * i)).toArray := by
    rw [schedule, hfirst]
    rw [fold_eq_foldl fun (words : Array UInt32) i =>
      words.push (nextWord words (i + 16)), foldl_eq_iterate_grow (by simp)]
  constructor
  · rw [hschedule, size_iterate_grow, List.size_toArray, List.length_map, List.length_range]
  · rw [hschedule]
    exact map_toNat_iterate_grow 48 [] _ _ _ _ _ _ _ _ _ _ _ _ _ _ _ _

/-! ## Blocks -/

/-- The constants of the rounds as numbers. -/
def constantNumbers : List Nat :=
  constants.toList.map UInt32.toNat

/-- The state after a block with the given words. -/
def Registers.compress (r : Registers) (window : List Nat) : Registers :=
  r.add ((constantNumbers.zip (expand 48 window)).foldl (fun t pair => t.round pair.1 pair.2) r)

lemma registers_foldl_round {n : Nat} {keys words : Array UInt32} (hkeys : keys.size = n)
    (hwords : words.size = n) (s : State) :
    ((List.range n).foldl (fun t i => t.round (keys.getD i 0) (words.getD i 0)) s).registers =
      ((keys.toList.map UInt32.toNat).zip (words.toList.map UInt32.toNat)).foldl
        (fun t pair => t.round pair.1 pair.2) s.registers := by
  have hzip : (keys.toList.map UInt32.toNat).zip (words.toList.map UInt32.toNat) =
      (List.range n).map fun i => ((keys.getD i 0).toNat, (words.getD i 0).toNat) := by
    refine List.ext_getElem (by simp [hkeys, hwords]) fun i hi hi' => ?_
    have hlt : i < n := by simpa using hi'
    simp [hkeys, hwords, hlt]
  rw [hzip, List.foldl_map]
  exact (List.foldl_hom State.registers fun t i => (registers_round _ _ _).symm).symm

lemma registers_compress (message : ByteArray) (s : State) (start : Nat) :
    (compress message s start).registers = s.registers.compress (windowAt message start) := by
  obtain ⟨hsize, hwords⟩ := schedule_eq message start
  have hrounds := registers_foldl_round (by rfl : constants.size = 64) hsize s
  rw [compress, registers_add, fold_eq_foldl (fun (t : State) i =>
    t.round (constants.getD i 0) ((schedule message start).getD i 0)), hrounds, hwords]
  rfl

/-! ## Messages -/

/-- The numbers of the words that bytes make up, four by four. -/
def numbers : List Nat → List Nat
  | a :: b :: c :: d :: rest => (a <<< 24 ||| b <<< 16 ||| c <<< 8 ||| d) :: numbers rest
  | _ => []

/-- The state after the first blocks of a list of words. -/
def Registers.compressAll : (blocks : Nat) → List Nat → Registers → Registers
  | 0, _, r => r
  | blocks + 1, words, r => compressAll blocks (words.drop 16) (r.compress (words.take 16))

/-- The bytes of a padded message. -/
def paddedBytes (bytes : List Nat) : List Nat :=
  bytes ++ 128 :: (List.replicate ((55 + 64 - bytes.length % 64) % 64) 0 ++
    (lengthBytes (8 * bytes.length)).map UInt8.toNat)

/-- The digest of a message, as numbers. -/
def evaluate (message : List UInt8) : List Nat :=
  let bytes := paddedBytes (message.map UInt8.toNat)
  let r := Registers.compressAll (bytes.length / 64) (numbers bytes) initial.registers
  [r.a, r.b, r.c, r.d, r.e, r.f, r.g, r.h].flatMap fun w =>
    [w >>> 24 % 256, w >>> 16 % 256, w >>> 8 % 256, w % 256]

lemma toNat_wordAt {message : ByteArray} {i : Nat} (h : i + 3 < message.size) :
    (wordAt message i).toNat =
      message[i].toNat <<< 24 ||| message[i + 1].toNat <<< 16 ||| message[i + 2].toNat <<< 8 |||
        message[i + 3].toNat := by
  have hshift : ∀ (b : UInt8) (k : Nat), k ≤ 24 → b.toNat <<< k % 4294967296 = b.toNat <<< k := by
    intro b k hk
    have hb := b.toNat_lt
    have hpow : 2 ^ k ≤ 16777216 := by
      simpa using Nat.pow_le_pow_right (by decide : 0 < 2) hk
    have hle : b.toNat * 2 ^ k ≤ b.toNat * 16777216 := Nat.mul_le_mul_left _ hpow
    rw [Nat.shiftLeft_eq]
    exact Nat.mod_eq_of_lt (by omega)
  have hbyte : ∀ k (hk : k < message.size), (byteAt message k) = message[k].toUInt32 :=
    fun k hk => dif_pos hk
  rw [wordAt, hbyte i (by omega), hbyte (i + 1) (by omega), hbyte (i + 2) (by omega),
    hbyte (i + 3) h]
  simp [hshift]

lemma getElem?_numbers {bytes : List Nat} {k : Nat} (h : 4 * k + 3 < bytes.length) :
    (numbers bytes)[k]? = some (bytes[4 * k] <<< 24 ||| bytes[4 * k + 1] <<< 16 |||
      bytes[4 * k + 2] <<< 8 ||| bytes[4 * k + 3]) := by
  induction k generalizing bytes with
  | zero =>
    match bytes, h with
    | a :: b :: c :: d :: rest, _ => rfl
  | succ k ih =>
    match bytes, h with
    | a :: b :: c :: d :: rest, h =>
      have hrest := @ih rest (by simp only [List.length_cons] at h; omega)
      simpa [numbers, Nat.mul_add] using hrest

/-- A block of a message is sixteen of its words. -/
lemma windowAt_eq {message : ByteArray} {block : Nat} (h : 64 * (block + 1) ≤ message.size) :
    windowAt message (64 * block) =
      ((numbers (message.data.toList.map UInt8.toNat)).drop (16 * block)).take 16 := by
  have hlength : message.data.toList.length = message.size := rfl
  refine List.ext_getElem? fun i => ?_
  rw [List.getElem?_take]
  by_cases hi : i < 16
  · have hword : 4 * (16 * block + i) + 3 < (message.data.toList.map UInt8.toNat).length := by
      rw [List.length_map, hlength]
      omega
    rw [if_pos hi, List.getElem?_drop, getElem?_numbers hword, windowAt, List.getElem?_map,
      List.getElem?_range hi, Option.map_some, toNat_wordAt (by omega)]
    simp only [List.getElem_map, ByteArray.getElem_eq_getElem_data, Array.getElem_toList]
    simp only [show 64 * block + 4 * i = 4 * (16 * block + i) by omega]
  · rw [if_neg hi, windowAt, List.getElem?_eq_none (by simp; omega)]

lemma foldl_compress_eq (blocks : Nat) (words : List Nat) (r : Registers) :
    (List.range blocks).foldl (fun r i => r.compress ((words.drop (16 * i)).take 16)) r =
      r.compressAll blocks words := by
  induction blocks generalizing words r with
  | zero => rfl
  | succ blocks ih =>
    have hdrop : ∀ i, words.drop (16 * (i + 1)) = (words.drop 16).drop (16 * i) := by
      intro i
      rw [List.drop_drop, Nat.mul_succ, Nat.add_comm]
    rw [List.range_succ_eq_map, List.foldl_cons, List.foldl_map, Registers.compressAll, ← ih]
    simp only [Nat.succ_eq_add_one, hdrop, Nat.mul_zero, List.drop_zero]

/-- The blocks of a message are its words, sixteen by sixteen. -/
lemma registers_foldl_compress (message : ByteArray) (blocks : Nat)
    (h : 64 * blocks ≤ message.size) (s : State) :
    ((List.range blocks).foldl (fun s i => compress message s (64 * i)) s).registers =
      s.registers.compressAll blocks (numbers (message.data.toList.map UInt8.toNat)) := by
  rw [← foldl_compress_eq]
  induction blocks with
  | zero => rfl
  | succ blocks ih =>
    rw [List.range_succ, List.foldl_append, List.foldl_append, List.foldl_cons, List.foldl_nil,
      List.foldl_cons, List.foldl_nil, registers_compress, ih (by omega), windowAt_eq h]

lemma toList_foldl_push (ending : List UInt8) (bytes : ByteArray) :
    (ending.foldl ByteArray.push bytes).data.toList = bytes.data.toList ++ ending := by
  induction ending generalizing bytes with
  | nil => simp
  | cons b rest ih =>
    rw [List.foldl_cons, ih, ByteArray.data_push, Array.toList_push, List.append_assoc]
    rfl

lemma toList_fold_push_zero (n : Nat) (bytes : ByteArray) :
    (Nat.fold n (fun _ _ bytes => bytes.push 0) bytes).data.toList =
      bytes.data.toList ++ List.replicate n 0 := by
  induction n with
  | zero => simp
  | succ n ih =>
    rw [Nat.fold_succ, ByteArray.data_push, Array.toList_push, ih, List.replicate_succ',
      List.append_assoc]

lemma toList_pad (message : List UInt8) :
    (pad ⟨message.toArray⟩).data.toList.map UInt8.toNat =
      paddedBytes (message.map UInt8.toNat) := by
  have hmark : ((ByteArray.mk message.toArray).push 0x80).data.toList = message ++ [128] := by
    rw [ByteArray.data_push, Array.toList_push]
  have hsize : (ByteArray.mk message.toArray).size = message.length := rfl
  rw [pad, toList_foldl_push, toList_fold_push_zero, hmark, hsize]
  simp [paddedBytes]

/-- The digest of a message is what its evaluation gives. -/
theorem map_toNat_digest (message : List UInt8) :
    (digest ⟨message.toArray⟩).map UInt8.toNat = evaluate message := by
  have hbytes := toList_pad message
  have hsize : (pad ⟨message.toArray⟩).size = (paddedBytes (message.map UInt8.toNat)).length := by
    rw [← hbytes, List.length_map]
    rfl
  have hblocks := registers_foldl_compress (pad ⟨message.toArray⟩)
    ((pad ⟨message.toArray⟩).size / 64) (Nat.mul_div_le _ _) initial
  rw [hbytes, hsize] at hblocks
  rw [digest, fold_eq_foldl fun s i => compress (pad ⟨message.toArray⟩) s (64 * i), evaluate,
    ← hblocks, hsize]
  simp [State.registers, wordBytes]

end Cartridge.Digest.Sha256
