import Cartridge.Proofs.Text.Letters
import Cartridge.Rom.Name

/-!
# The stems of image names

The stem of an image name is a part of the usable characters of a text: what is left when blanks are
taken off its ends, then an ending of image names, then blanks once more (`Stripped`).  Nothing that
is taken off can bring back what was removed before, so a stem can always be used as a file name
(`IsStem`).

Endings are looked for in small letters and cut off by counting bytes.  The cut falls between two
characters, because the letters of an ending take as many bytes in capitals (`cutEnding?_eq`).
-/

namespace Cartridge.Text

variable {c : Char}

/-! ## Trimming -/

lemma isBlank_of_mem_head?_dropWhile {cs : List Char} (h : c ∈ (cs.dropWhile isBlank).head?) :
    isBlank c = false := by
  have hnot := List.head?_dropWhile_not isBlank cs
  rwa [Option.mem_def.mp h] at hnot

/-- Blanks are taken off both ends. -/
lemma exists_trim (text : String) :
    ∃ front back, text.toList = front ++ ((trim text).toList ++ back) ∧
      (∀ c ∈ front, isBlank c = true) ∧ ∀ c ∈ back, isBlank c = true := by
  have hfront := List.takeWhile_append_dropWhile (p := isBlank) (l := text.toList)
  generalize hinner : text.toList.dropWhile isBlank = inner at hfront
  have hback := List.takeWhile_append_dropWhile (p := isBlank) (l := inner.reverse)
  refine ⟨text.toList.takeWhile isBlank, (inner.reverse.takeWhile isBlank).reverse, ?_,
    fun c => List.mem_takeWhile_imp, fun c hc => List.mem_takeWhile_imp (List.mem_reverse.mp hc)⟩
  rw [trim, String.toList_ofList, trimChars, hinner, ← List.reverse_append, hback,
    List.reverse_reverse, hfront]

lemma isBlank_getLast?_trim (text : String) :
    ∀ c ∈ (trim text).toList.getLast?, isBlank c = false := by
  intro c hc
  rw [trim, String.toList_ofList, trimChars, List.getLast?_reverse] at hc
  exact isBlank_of_mem_head?_dropWhile hc

lemma isBlank_head?_trim (text : String) : ∀ c ∈ (trim text).toList.head?, isBlank c = false := by
  intro c hc
  rw [trim, String.toList_ofList, trimChars] at hc
  obtain ⟨rest, hrest⟩ := List.head?_eq_some_iff.mp hc
  -- trimming the end keeps the first character
  have hkept : (c :: rest) <+: text.toList.dropWhile isBlank := by
    rw [← hrest, ← List.reverse_suffix, List.reverse_reverse]
    exact List.dropWhile_suffix _
  obtain ⟨back, hback⟩ := hkept
  exact isBlank_of_mem_head?_dropWhile (by rw [← hback]; rfl)

/-- Only blanks are trimmed away altogether. -/
lemma trim_eq_empty_iff {text : String} :
    trim text = "" ↔ ∀ c ∈ text.toList, isBlank c = true := by
  obtain ⟨front, back, htext, hfront, hback⟩ := exists_trim text
  constructor
  · intro hempty
    rw [htext, hempty]
    exact List.forall_mem_append.mpr ⟨hfront, hback⟩
  · intro hblank
    rw [← String.toList_inj]
    refine List.eq_nil_iff_forall_not_mem.mpr fun c hc => ?_
    obtain ⟨d, rest, hd⟩ := List.exists_cons_of_ne_nil (List.ne_nil_of_mem hc)
    have hnot := isBlank_head?_trim text d (by rw [hd]; rfl)
    have hyes := hblank d (by rw [htext, hd]; simp)
    rw [hnot] at hyes
    exact absurd hyes Bool.false_ne_true

/-! ## Bytes -/

/-- The characters before a position that is counted in bytes; none for a position inside a
character or behind the text. -/
def upTo? : (bytes : Nat) → List Char → Option (List Char)
  | 0, _ => some []
  | _ + 1, [] => none
  | bytes + 1, c :: rest =>
    if c.utf8Size ≤ bytes + 1 then (upTo? (bytes + 1 - c.utf8Size) rest).map (c :: ·) else none

lemma upTo?_append (front rest : List Char) :
    upTo? (String.utf8Len front) (front ++ rest) = some front := by
  induction front with
  | nil => rw [String.utf8Len_nil, upTo?]
  | cons c front ih =>
    obtain ⟨bytes, hbytes⟩ : ∃ n, String.utf8Len (c :: front) = n + 1 :=
      ⟨_, (Nat.sub_add_cancel (by have := c.utf8Size_pos; rw [String.utf8Len_cons]; omega)).symm⟩
    have hrest : bytes + 1 - c.utf8Size = String.utf8Len front := by
      rw [← hbytes, String.utf8Len_cons, Nat.add_sub_cancel]
    have hfits : c.utf8Size ≤ bytes + 1 := by
      rw [← hbytes, String.utf8Len_cons]
      exact Nat.le_add_left _ _
    rw [hbytes, List.cons_append, upTo?, if_pos hfits, hrest, ih]
    rfl

end Cartridge.Text

namespace Cartridge.Rom

open Cartridge.Build (Product)

/-! ## Endings -/

/-- What is cut off a name are the characters of the ending that is found. -/
lemma exists_dropEnding (name : String) :
    ∃ cut, name.toList = (dropEnding name).toList ++ cut ∧
      (imageEndings.find? (hasEnding name) = none ∧ cut = [] ∨
        ∃ ending, imageEndings.find? (hasEnding name) = some ending ∧
          cut.map Char.toLower = ending.toList) := by
  rw [dropEnding]
  cases hfound : imageEndings.find? (hasEnding name) with
  | none => exact ⟨[], (List.append_nil _).symm, .inl ⟨rfl, rfl⟩⟩
  | some ending =>
    have hending := List.find?_some hfound
    rw [hasEnding, Text.endsWith, String.toList_ofList, List.isSuffixOf_iff_suffix] at hending
    have hdrop := List.suffix_iff_eq_drop.mp hending
    rw [List.length_map, ← List.map_drop, String.length_toList, String.length_toList] at hdrop
    exact ⟨_, by rw [String.toList_ofList, List.take_append_drop], .inr ⟨ending, rfl, hdrop.symm⟩⟩

/-- The name without the ending that is found, cut at a position that is counted in bytes. -/
def cutEnding? (name : String) : Option String :=
  match imageEndings.find? (hasEnding name) with
  | some ending =>
    if ending.utf8ByteSize ≤ name.utf8ByteSize then
      (Text.upTo? (name.utf8ByteSize - ending.utf8ByteSize) name.toList).map String.ofList
    else none
  | none => some name

lemma cutEnding?_eq (name : String) : cutEnding? name = some (dropEnding name) := by
  obtain ⟨cut, hname, ⟨hnone, hcut⟩ | ⟨ending, hsome, hcut⟩⟩ := exists_dropEnding name
  · rw [cutEnding?, dropEnding, hnone]
  · have hsize : name.utf8ByteSize =
        String.utf8Len (dropEnding name).toList + ending.utf8ByteSize := by
      rw [← String.utf8Len_toList name, hname, String.utf8Len_append,
        ← Text.utf8Len_map_toLower cut, hcut, String.utf8Len_toList ending]
    rw [cutEnding?, hsome]
    dsimp only
    rw [if_pos (by omega), hsize, Nat.add_sub_cancel, hname, Text.upTo?_append]
    simp

/-! ## Stems -/

/-- A text that can be the name of a file without its ending. -/
structure IsStem (stem : String) : Prop where
  ne_empty : stem ≠ ""
  ne_dash : ∃ c ∈ stem.toList, c ≠ '-'
  allowed : ∀ c ∈ stem.toList, c ∉ forbiddenChars ∧ Text.isControl c = false
  head : ∀ c ∈ stem.toList.head?, Text.isBlank c = false
  getLast : ∀ c ∈ stem.toList.getLast?, Text.isBlank c = false

/-- Something is left of a text when blanks and characters that file names cannot hold are taken
away. -/
def KeepsSome (text : String) : Prop :=
  ∃ c ∈ text.toList, isUsable c = true ∧ Text.isBlank c = false

/-- The stem is made of the usable characters of a text without blanks at the ends, without an
ending of image names and without blanks before that; only dashes make the default stem. -/
def Stripped (text stem : String) : Prop :=
  ∃ front kept gap ending back : List Char,
    (usable text).toList = front ++ (kept ++ (gap ++ (ending ++ back))) ∧
      (∀ c ∈ front ++ gap ++ back, Text.isBlank c = true) ∧
      (ending = [] ∨ ending.map Char.toLower ∈ imageEndings.map String.toList) ∧
      stem = if kept.all (· == '-') then defaultStem else String.ofList kept

/-- The stem with its ending cut off by counting bytes. -/
def fileStem? (chosen project : String) : Option String :=
  (cutEnding? (Text.trim (usable (nameSource chosen project)))).map fun name =>
    let stem := Text.trim name
    if stem.toList.all (· == '-') then defaultStem else stem

lemma fileStem?_eq (chosen project : String) :
    fileStem? chosen project = some (fileStem chosen project) := by
  rw [fileStem?, cutEnding?_eq]
  rfl

lemma stripped_fileStem (chosen project : String) :
    Stripped (nameSource chosen project) (fileStem chosen project) := by
  rw [Stripped, fileStem]
  generalize usable (nameSource chosen project) = text
  obtain ⟨front, back, htext, hfront, hback⟩ := Text.exists_trim text
  obtain ⟨cut, hname, hcut⟩ := exists_dropEnding (Text.trim text)
  obtain ⟨front', gap, hstem, hfront', hgap⟩ := Text.exists_trim (dropEnding (Text.trim text))
  refine ⟨front ++ front', (Text.trim (dropEnding (Text.trim text))).toList, gap, cut, back,
    ?_, ?_, ?_, by rw [String.ofList_toList]⟩
  · rw [htext, hname, hstem]
    simp only [List.append_assoc]
  · simp only [List.forall_mem_append]
    exact ⟨⟨⟨hfront, hfront'⟩, hgap⟩, hback⟩
  · rcases hcut with ⟨-, hnil⟩ | ⟨ending, hfound, hending⟩
    · exact .inl hnil
    · exact .inr (hending ▸ List.mem_map_of_mem (List.mem_of_find?_eq_some hfound))

lemma isUsable_iff {c : Char} :
    isUsable c = true ↔ c ∉ forbiddenChars ∧ Text.isControl c = false := by
  simp [isUsable]

/-- All that a stem is made of can stand in file names. -/
lemma isUsable_of_mem_fileStem {chosen project : String} {c : Char}
    (h : c ∈ (fileStem chosen project).toList) : isUsable c = true := by
  obtain ⟨front, kept, gap, ending, back, htext, -, -, hstem⟩ := stripped_fileStem chosen project
  rw [hstem] at h
  split_ifs at h
  · exact List.all_eq_true.mp (by decide : defaultStem.toList.all isUsable = true) c h
  · rw [String.toList_ofList] at h
    have hmem : c ∈ (usable (nameSource chosen project)).toList := by
      rw [htext]
      simp [h]
    rw [usable, String.toList_ofList] at hmem
    exact (List.mem_filter.mp hmem).2

lemma isStem_fileStem (chosen project : String) : IsStem (fileStem chosen project) := by
  have hallowed : ∀ c ∈ (fileStem chosen project).toList,
      c ∉ forbiddenChars ∧ Text.isControl c = false :=
    fun c hc => isUsable_iff.mp (isUsable_of_mem_fileStem hc)
  obtain ⟨text, htrim, c, hc, hdash⟩ : ∃ text, fileStem chosen project = Text.trim text ∧
      ∃ c ∈ (fileStem chosen project).toList, c ≠ '-' := by
    rw [fileStem]
    split_ifs with hdashes
    · exact ⟨defaultStem, by decide +kernel, 'g', by decide, by decide⟩
    · exact ⟨_, rfl, by simpa using hdashes⟩
  refine ⟨?_, ⟨c, hc, hdash⟩, hallowed, ?_, ?_⟩
  · rintro hempty
    rw [hempty] at hc
    exact absurd hc List.not_mem_nil
  · exact htrim ▸ Text.isBlank_head?_trim text
  · exact htrim ▸ Text.isBlank_getLast?_trim text

lemma trim_usable_eq_empty_iff {text : String} :
    Text.trim (usable text) = "" ↔ ¬KeepsSome text := by
  rw [Text.trim_eq_empty_iff, usable, String.toList_ofList]
  simp [KeepsSome]

/-- **Names of images can always be used.**  Cutting an ending off by counting bytes gives the stem,
and the stem can be the name of a file.  It is made of the chosen name alone where that keeps a
character, and else of the name of the project alone.  The ending of the product is put behind
it. -/
theorem image_names_usable (chosen project : String) :
    fileStem? chosen project = some (fileStem chosen project) ∧
      IsStem (fileStem chosen project) ∧
      (KeepsSome chosen → Stripped chosen (fileStem chosen project) ∧
        ∀ other, fileStem chosen other = fileStem chosen project) ∧
      (¬KeepsSome chosen → Stripped (slug (Text.trim project)) (fileStem chosen project) ∧
        ∀ other, ¬KeepsSome other → fileStem other project = fileStem chosen project) ∧
      (∀ colorOnly, fileName chosen project colorOnly .advance =
          fileStem chosen project ++ ".gba" ∧
        fileName chosen project colorOnly .pocket = fileStem chosen project ++ ".pocket") ∧
      ∀ product ∈ [Product.rom, Product.web],
        fileName chosen project true product = fileStem chosen project ++ ".gbc" ∧
          fileName chosen project false product = fileStem chosen project ++ ".gb" := by
  have hkept : ∀ text name, KeepsSome text → nameSource text name = text := fun text name h =>
    if_neg fun hempty => trim_usable_eq_empty_iff.mp hempty h
  have hslug : ∀ text, ¬KeepsSome text → nameSource text project = slug (Text.trim project) :=
    fun text h => if_pos (trim_usable_eq_empty_iff.mpr h)
  have hstripped := stripped_fileStem chosen project
  refine ⟨fileStem?_eq chosen project, isStem_fileStem chosen project, fun h => ?_, fun h => ?_,
    fun colorOnly => ⟨?_, ?_⟩, ?_⟩
  · rw [hkept chosen project h] at hstripped
    exact ⟨hstripped, fun other => by rw [fileStem, fileStem, hkept _ _ h, hkept _ _ h]⟩
  · rw [hslug chosen h] at hstripped
    exact ⟨hstripped, fun other hother => by rw [fileStem, fileStem, hslug _ h, hslug _ hother]⟩
  · exact String.append_assoc
  · exact String.append_assoc
  · intro product hproduct
    fin_cases hproduct <;> exact ⟨String.append_assoc, String.append_assoc⟩

end Cartridge.Rom
