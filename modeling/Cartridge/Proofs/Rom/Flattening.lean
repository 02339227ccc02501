import Cartridge.Proofs.List.Steps
import Cartridge.Rom.Image

/-!
# Images byte by byte

The image of an executable is told without going through its assembly: where each section is
loaded (`loadPlace`), how far the sections reach, and which byte is seen at each address
(`seenByte`).  All of this is in numbers without a bound, so that the sums which the assembly
checks are seen to be checked.

A segment whose part of the file reaches the end of the address space holds no section, even where
the section lies in it (`endless_segment_holds_nothing`).
-/

namespace Cartridge.Rom

/-! ## Where sections are loaded -/

/-- The segment is loaded, its part of the file ends in the address space, and the contents of the
section are in it. -/
def Segment.Contains (segment : Segment) (part : Section) : Prop :=
  segment.kind = loadedKind ∧
    segment.offset.toNat + segment.fileSize.toNat < addressSpace ∧
    segment.offset.toNat ≤ part.offset.toNat ∧
    part.offset.toNat + part.size.toNat ≤ segment.offset.toNat + segment.fileSize.toNat

instance (segment : Segment) (part : Section) : Decidable (segment.Contains part) :=
  inferInstanceAs (Decidable (_ ∧ _))

/-- Where a section is loaded: as far into the first segment that contains it as in the file, and
else at its own address. -/
def loadPlace (segments : List Segment) (part : Section) : Nat :=
  match segments.find? fun segment => segment.Contains part with
  | some segment => segment.loadAddress.toNat + (part.offset.toNat - segment.offset.toNat)
  | none => part.address.toNat

/-- The section ends in the address space, both in the file and with its bytes in memory. -/
def Ends (segments : List Segment) (part : Section) (bytes : ByteArray) : Prop :=
  part.offset.toNat + part.size.toNat < addressSpace ∧
    loadPlace segments part + bytes.size < addressSpace

/-- The section stands with its bytes where it is loaded, and it ends in the address space. -/
def IsPlaced (segments : List Segment) (dataOf : Section → Except ElfFault ByteArray)
    (part : Section) (placed : Placed) : Prop :=
  placed.load = loadPlace segments part ∧ dataOf part = .ok placed.bytes ∧
    Ends segments part placed.bytes

variable {segments : List Segment} {dataOf : Section → Except ElfFault ByteArray}
  {part : Section} {placed : List Placed} {image : ByteArray}

lemma addAddress?_eq_some {a b n : Nat} :
    addAddress? a b = some n ↔ a + b < addressSpace ∧ a + b = n := by
  rw [addAddress?, Option.ite_none_right_eq_some, Option.some_inj]

lemma holds_eq_contains (segment : Segment) (part : Section) :
    segment.holds part.offset.toNat (part.offset.toNat + part.size.toNat) =
      decide (segment.Contains part) := by
  unfold Segment.holds Segment.Contains addAddress?
  split <;> split at * <;> grind

lemma loadAddress_eq_ok {load : Nat} :
    loadAddress segments part (part.offset.toNat + part.size.toNat) = .ok load ↔
      loadPlace segments part < addressSpace ∧ loadPlace segments part = load := by
  unfold loadAddress loadPlace
  simp only [holds_eq_contains]
  cases segments.find? fun segment => decide (segment.Contains part) with
  | none =>
    have hlt : part.address.toNat < addressSpace := part.address.toNat_lt
    simp [hlt]
  | some segment =>
    rw [← addAddress?_eq_some]
    dsimp only
    split <;> simp_all

lemma placeSection_eq_ok {p : Placed} :
    placeSection segments dataOf part = .ok p ↔ IsPlaced segments dataOf part p := by
  unfold placeSection
  split
  · grind [IsPlaced, Ends, addAddress?]
  · rename_i stop hstop
    obtain ⟨hfile, rfl⟩ := addAddress?_eq_some.mp hstop
    simp only [bind_eq_ok, loadAddress_eq_ok]
    constructor
    · rintro ⟨load, ⟨-, rfl⟩, h⟩
      split at h
      · cases h
      · grind [IsPlaced, Ends, addAddress?]
    · rintro ⟨hload, hbytes, -, hends⟩
      rw [← hload] at hends ⊢
      exact ⟨p.load, ⟨by omega, rfl⟩, by simp [hbytes, addAddress?, hends]⟩

/-! ## The image -/

/-- The byte of a section at an address. -/
def Placed.byteAt? (part : Placed) (address : Nat) : Option UInt8 :=
  if part.load ≤ address then part.bytes.data[address - part.load]? else none

/-- The byte that is seen at an address: that of the last section which has one there. -/
def seenByte (placed : List Placed) (address : Nat) : UInt8 :=
  (placed.reverse.findSome? (·.byteAt? address)).getD 0

/-- The lowest address of sections. -/
def lowest (placed : List Placed) : Nat :=
  (placed.map (·.load)).min?.getD 0

/-- How far sections reach from the lowest address on. -/
def span (placed : List Placed) : Nat :=
  (placed.map Placed.stop).max?.getD 0 - lowest placed

/-- The image shows the sections: it is as long as they reach, each section lies in it, and each of
its bytes is the one that is seen there. -/
structure Shows (placed : List Placed) (image : ByteArray) : Prop where
  size_eq : image.size = span placed
  inside : ∀ part ∈ placed, lowest placed ≤ part.load ∧ part.stop ≤ lowest placed + image.size
  byte_eq : ∀ i < image.size, image.data[i]? = some (seenByte placed (lowest placed + i))

lemma Shows.eq {image' : ByteArray} (h : Shows placed image) (h' : Shows placed image') :
    image = image' := by
  have hsize : image.size = image'.size := h.size_eq.trans h'.size_eq.symm
  refine ByteArray.ext (Array.ext_getElem? fun i => ?_)
  by_cases hi : i < image.size
  · rw [h.byte_eq i hi, h'.byte_eq i (hsize ▸ hi)]
  · rw [Array.getElem?_eq_none (by simpa using hi),
      Array.getElem?_eq_none (by simpa [← hsize] using hi)]

lemma size_overlay {start : Nat} {bytes : ByteArray} (h : start + bytes.size ≤ image.size) :
    (overlay image start bytes).size = image.size := by
  simp only [overlay, ByteArray.copySlice, ← ByteArray.size_data] at h ⊢
  simp only [Array.size_append, Array.size_extract]
  omega

lemma getElem?_overlay {base : Nat} {part : Placed} (hbase : base ≤ part.load)
    (hstop : part.stop ≤ base + image.size) (i : Nat) :
    (overlay image (part.load - base) part.bytes).data[i]? =
      (part.byteAt? (base + i)).or image.data[i]? := by
  simp only [Placed.stop, ← ByteArray.size_data] at hstop
  simp only [overlay, ByteArray.copySlice, Placed.byteAt?, ← ByteArray.size_data,
    Array.getElem?_append, Array.getElem?_extract, Array.size_append, Array.size_extract]
  -- Behind, in and before the section.
  obtain hbehind | hin | hbefore : part.load - base + part.bytes.data.size ≤ i ∨
      (part.load - base ≤ i ∧ i < part.load - base + part.bytes.data.size) ∨
      i < part.load - base := by omega
  · grind
  · grind
  · grind

/-- Sections put into an image one after the other leave the byte of the last one that has one, and
else the byte that was there. -/
lemma overlay_run {base : Nat}
    (hinside : ∀ part ∈ placed, base ≤ part.load ∧ part.stop ≤ base + image.size) :
    let after := placed.foldl (fun image part => overlay image (part.load - base) part.bytes) image
    after.size = image.size ∧ ∀ i : Nat,
      after.data[i]? = (placed.reverse.findSome? (·.byteAt? (base + i))).or image.data[i]? := by
  induction placed generalizing image with
  | nil => simp
  | cons part rest ih =>
    obtain ⟨⟨hbase, hstop⟩, hrest⟩ := List.forall_mem_cons.mp hinside
    have hsize : (overlay image (part.load - base) part.bytes).size = image.size :=
      size_overlay (by unfold Placed.stop at hstop; omega)
    obtain ⟨hafter, hbytes⟩ := ih (hsize ▸ hrest)
    refine ⟨hafter.trans hsize, fun i => (hbytes i).trans ?_⟩
    rw [getElem?_overlay hbase hstop, List.reverse_cons, List.findSome?_append, Option.or_assoc]
    simp

lemma assemble_eq (placed : List Placed) :
    assemble placed =
      if maxRomSize < span placed then .error (.tooLarge (span placed))
      else
        .ok (placed.foldl (fun image part => overlay image (part.load - lowest placed) part.bytes)
          (filled (span placed) 0)) := by
  cases placed with
  | nil => rfl
  | cons part rest => simp [assemble, lowest, span]

lemma assemble_eq_ok_of_span_le (h : span placed ≤ maxRomSize) :
    ∃ image, assemble placed = .ok image ∧ Shows placed image := by
  have hfilled : (filled (span placed) 0).size = span placed := by simp [filled, ByteArray.size]
  have hinside : ∀ part ∈ placed, lowest placed ≤ part.load ∧
      part.stop ≤ lowest placed + (filled (span placed) 0).size := by
    intro part hpart
    have hlow : lowest placed ≤ part.load :=
      List.min?_getD_le_of_mem (List.mem_map_of_mem hpart)
    have hhigh : part.stop ≤ (placed.map Placed.stop).max?.getD 0 :=
      List.le_max?_getD_of_mem (List.mem_map_of_mem hpart)
    rw [hfilled, span]
    omega
  obtain ⟨hsize, hbytes⟩ := overlay_run hinside
  refine ⟨_, (assemble_eq placed).trans (if_neg (Nat.not_lt.mpr h)), hsize.trans hfilled,
    hsize ▸ hinside, fun i hi => ?_⟩
  rw [hsize, hfilled] at hi
  rw [hbytes, seenByte, filled, Array.getElem?_replicate, if_pos hi]
  cases placed.reverse.findSome? (·.byteAt? (lowest placed + i)) <;> rfl

lemma assemble_eq_ok :
    assemble placed = .ok image ↔ span placed ≤ maxRomSize ∧ Shows placed image := by
  by_cases hspan : span placed ≤ maxRomSize
  · obtain ⟨assembled, heq, hshows⟩ := assemble_eq_ok_of_span_le hspan
    rw [heq, Except.ok.injEq]
    exact ⟨fun h => ⟨hspan, h ▸ hshows⟩, fun h => hshows.eq h.2⟩
  · simp [assemble_eq, Nat.not_le.mp hspan, hspan]

lemma mapM_placeSection {sections : List Section} :
    sections.mapM (placeSection segments dataOf) = .ok placed ↔
      List.Forall₂ (IsPlaced segments dataOf) sections placed := by
  simp only [mapM_eq_ok_iff, placeSection_eq_ok]

/-- What an executable is made into, told without going through the assembly. -/
structure FlattensExactly (segments : List Segment) (sections : List Section)
    (dataOf : Section → Except ElfFault ByteArray) : Prop where
  /-- There is an image exactly where all sections with contents can be placed within the limit. -/
  image_iff : ∀ image, flatten segments sections dataOf = .ok image ↔
    ∃ placed, List.Forall₂ (IsPlaced segments dataOf) (sections.filter (·.isLoaded)) placed ∧
      span placed ≤ maxRomSize ∧ Shows placed image
  /-- Without such sections the image is empty. -/
  empty : (∀ part ∈ sections, part.isLoaded = false) →
    flatten segments sections dataOf = .ok .empty
  tooLarge : ∀ placed,
    List.Forall₂ (IsPlaced segments dataOf) (sections.filter (·.isLoaded)) placed →
    maxRomSize < span placed →
    flatten segments sections dataOf = .error (.tooLarge (span placed))
  outside : ∀ part ∈ sections, part.isLoaded →
    (∀ bytes, dataOf part = .ok bytes → ¬ Ends segments part bytes) →
    ∃ fault, flatten segments sections dataOf = .error fault

theorem flatten_exact (segments : List Segment) (sections : List Section)
    (dataOf : Section → Except ElfFault ByteArray) :
    FlattensExactly segments sections dataOf := by
  have himage (image : ByteArray) : flatten segments sections dataOf = .ok image ↔
      ∃ placed, List.Forall₂ (IsPlaced segments dataOf) (sections.filter (·.isLoaded)) placed ∧
        span placed ≤ maxRomSize ∧ Shows placed image := by
    simp only [flatten, bind_eq_ok, assemble_eq_ok, mapM_placeSection]
  refine ⟨himage, fun hnone => ?_, fun placed hplaced hspan => ?_,
    fun part hpart hloaded hout => ?_⟩
  · have hfilter : sections.filter (·.isLoaded) = [] := by simpa using hnone
    rw [flatten, hfilter]
    rfl
  · rw [flatten, mapM_placeSection.mpr hplaced]
    exact (assemble_eq placed).trans (if_pos hspan)
  · cases hflat : flatten segments sections dataOf with
    | error fault => exact ⟨fault, rfl⟩
    | ok image =>
      obtain ⟨placed, hplaced, -⟩ := (himage image).mp hflat
      obtain ⟨bytes, hbytes, hends⟩ := forall_mem_of_forall₂
        (P := fun part => ∃ bytes, dataOf part = .ok bytes ∧ Ends segments part bytes)
        (fun own _ h => ⟨own.bytes, h.2⟩) hplaced.flip part (List.mem_filter.mpr ⟨hpart, hloaded⟩)
      exact absurd hends (hout bytes hbytes)

/-! ## A segment without an end -/

/-- A segment whose part of the file reaches behind the address space. -/
def endlessSegment : Segment := ⟨loadedKind, 1, 0x100, 0xFFFFFFFFFFFFFFFF⟩

/-- Two sections of one byte each, which follow each other in the file but not in memory. -/
def twoSections : List Section :=
  [⟨1, allocatedFlag, 0, 64, 1, 0⟩, ⟨1, allocatedFlag, 3, 65, 1, 0⟩]

/-- Both sections lie in the segment, which would load them next to each other, but they are loaded
at their own addresses. -/
theorem endless_segment_holds_nothing :
    (∀ part ∈ twoSections, endlessSegment.offset.toNat ≤ part.offset.toNat ∧
      part.offset.toNat + part.size.toNat ≤
        endlessSegment.offset.toNat + endlessSegment.fileSize.toNat) ∧
    flatten [endlessSegment] twoSections (fun _ => .ok ⟨#[0xAA]⟩) = .ok ⟨#[0xAA, 0, 0, 0xAA]⟩ := by
  decide +kernel

end Cartridge.Rom
