import Cartridge.Rom.Elf

/-!
# Cartridge images

A linked executable becomes an image: each section with contents is put where it is loaded,
relative to the lowest of them, and gaps are filled with zeros.  Where sections overlap, the later
one in the table is seen.
-/

namespace Cartridge.Rom

/-- Why an executable gives no image. -/
inductive ImageFault
  | unreadable (fault : ElfFault)
  | sectionEnd
  | segmentLoad
  | sectionLoad
  | tooLarge (size : Nat)
  deriving DecidableEq

/-- The smallest size of images that every player takes. -/
def minRomSize : Nat := 2 * 1024 * 1024

/-- The size of the address space of cartridges. -/
def maxRomSize : Nat := 32 * 1024 * 1024

/-- The text of a fault. -/
def ImageFault.message : ImageFault → String
  | .unreadable fault => fault.message
  | .sectionEnd => "section extends past the end of the address space"
  | .segmentLoad => "segment load address overflows"
  | .sectionLoad => "section load address overflows"
  | .tooLarge size =>
    "image spans " ++ toString size ++ " bytes, more than the " ++ toString maxRomSize ++
      " byte cartridge limit"

/-! ## Where sections are loaded -/

/-- The kind of segments that are loaded. -/
def loadedKind : UInt64 := 1

/-- The kind of sections without contents. -/
def emptyKind : UInt64 := 8

/-- The flag of sections that take up memory. -/
def allocatedFlag : UInt64 := 0x2

/-- The section has content that is loaded. -/
def Section.isLoaded (part : Section) : Bool :=
  part.flags &&& allocatedFlag != 0 && part.kind != emptyKind && part.size != 0

/-- The segment is loaded and holds the part of the file from `start` to `stop`. -/
def Segment.holds (segment : Segment) (start stop : Nat) : Bool :=
  segment.kind == loadedKind && segment.offset.toNat ≤ start &&
    match addAddress? segment.offset.toNat segment.fileSize.toNat with
    | some final => stop ≤ final
    | none => false

/-- A section at the address where it is loaded. -/
structure Placed where
  load : Nat
  bytes : ByteArray

/-- The address behind a placed section. -/
def Placed.stop (placed : Placed) : Nat :=
  placed.load + placed.bytes.size

/-- Where a section is loaded: in the first segment that holds it, and else at its own address. -/
def loadAddress (segments : List Segment) (part : Section) (stop : Nat) :
    Except ImageFault Nat :=
  match segments.find? (·.holds part.offset.toNat stop) with
  | none => .ok part.address.toNat
  | some segment =>
    match addAddress? segment.loadAddress.toNat (part.offset.toNat - segment.offset.toNat) with
    | some load => .ok load
    | none => .error .segmentLoad

/-- A section with its content and the address that it is loaded at. -/
def placeSection (segments : List Segment) (dataOf : Section → Except ElfFault ByteArray)
    (part : Section) : Except ImageFault Placed := do
  match addAddress? part.offset.toNat part.size.toNat with
  | none => .error .sectionEnd
  | some stop =>
    let load ← loadAddress segments part stop
    match dataOf part with
    | .error fault => .error (.unreadable fault)
    | .ok bytes =>
      match addAddress? load bytes.size with
      | none => .error .sectionLoad
      | some _ => .ok ⟨load, bytes⟩

/-! ## The image -/

/-- Bytes of one value. -/
def filled (size : Nat) (value : UInt8) : ByteArray :=
  ⟨Array.replicate size value⟩

/-- Bytes put over an image from a place on. -/
def overlay (image : ByteArray) (start : Nat) (bytes : ByteArray) : ByteArray :=
  bytes.copySlice 0 image start bytes.size

/-- The image of placed sections, from the lowest address to the highest. -/
def assemble (placed : List Placed) : Except ImageFault ByteArray :=
  match (placed.map (·.load)).min? with
  | none => .ok .empty
  | some base =>
    let size := ((placed.map Placed.stop).max?.getD base) - base
    if maxRomSize < size then .error (.tooLarge size)
    else
      .ok (placed.foldl (fun image part => overlay image (part.load - base) part.bytes)
        (filled size 0))

/-- The image of the loaded sections. -/
def flatten (segments : List Segment) (sections : List Section)
    (dataOf : Section → Except ElfFault ByteArray) : Except ImageFault ByteArray := do
  assemble (← (sections.filter (·.isLoaded)).mapM (placeSection segments dataOf))

/-- The image in a linked file; one without sections has an empty image. -/
def imageOfElf (data : ByteArray) : Except ImageFault ByteArray :=
  match Elf.read data with
  | .error fault => .error (.unreadable fault)
  | .ok elf =>
    match elf.sections with
    | none => .ok .empty
    | some sections => flatten elf.segments sections (elf.form.sectionData data)

/-- The bytes that are missing from an image of a least size. -/
def padding (size least : Nat) : ByteArray :=
  filled (least - size) 0xFF

end Cartridge.Rom
