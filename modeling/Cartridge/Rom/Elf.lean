import Cartridge.Text.Hex
import Cartridge.Text.Pieces

/-!
# Executable files

Reads the tables of an executable file in the ELF format: the segments, which say where parts of
the file are loaded, and the sections.  Numbers have 32 or 64 bits and either byte order, as the
first bytes of the file say.
-/

namespace Cartridge.Rom

/-- Why a file cannot be read. -/
inductive ElfFault
  | outside (start stop : Nat)
  | magic (bytes : List UInt8)
  | version (found : Nat)
  | width (found : Nat)
  | byteOrder (found : Nat)
  | entrySize (found expected : Nat)
  | overflow
  deriving DecidableEq

/-- A number in hexadecimal, for a message. -/
def hexText (n : Nat) : String :=
  Text.hexPadded 1 n

/-- The text of a fault. -/
def ElfFault.message : ElfFault → String
  | .outside start stop =>
    "Could not read bytes in range [0x" ++ hexText start ++ ", 0x" ++ hexText stop ++ ")"
  | .magic bytes =>
    "Invalid Magic Bytes: [" ++ Text.joinWith ", " (bytes.map fun b => hexText b.toNat) ++ "]"
  | .version found =>
    "Unsupported ELF Version field found: " ++ toString found ++ " expected: 1"
  | .width found => "Unsupported ELF Class: " ++ toString found
  | .byteOrder found => "Unsupported ELF Endianness: " ++ toString found
  | .entrySize found expected =>
    "Invalid entsize: " ++ toString found ++ ", expected: " ++ toString expected
  | .overflow => "Integer overflow detected"

/-! ## Numbers -/

/-- How the numbers of a file are written. -/
structure ElfForm where
  wide : Bool
  bigEndian : Bool

/-- The number of addresses. -/
def addressSpace : Nat := Nat.pow 2 64

/-- The sum of two numbers, if it is an address. -/
def addAddress? (a b : Nat) : Option Nat :=
  if a + b < addressSpace then some (a + b) else none

/-- The bytes of a file from one place up to another. -/
def slice (data : ByteArray) (start stop : Nat) : Except ElfFault ByteArray :=
  if start ≤ stop ∧ stop ≤ data.size then .ok (data.extract start stop)
  else .error (.outside start stop)

/-- The number of some bytes, the lowest first. -/
def numberOfBytes (bytes : List UInt8) : Nat :=
  bytes.foldr (fun b n => n * 256 + b.toNat) 0

/-- The number of the given size at a place. -/
def ElfForm.number (form : ElfForm) (data : ByteArray) (place size : Nat) :
    Except ElfFault UInt64 := do
  let bytes := (← slice data place (place + size)).toList
  return UInt64.ofNat (numberOfBytes (if form.bigEndian then bytes.reverse else bytes))

/-- The numbers that stand at the given distances from a place, each with its size. -/
def ElfForm.numbers (form : ElfForm) (data : ByteArray) (place : Nat)
    (fields : List (Nat × Nat)) : Except ElfFault (List UInt64) :=
  fields.mapM fun field => form.number data (place + field.1) field.2

/-! ## Sections and segments -/

/-- An entry of the section table. -/
structure Section where
  kind : UInt64
  flags : UInt64
  address : UInt64
  offset : UInt64
  size : UInt64
  /-- In the first entry: the number of segments, where it does not fit elsewhere. -/
  info : UInt64

/-- A segment of the file. -/
structure Segment where
  kind : UInt64
  offset : UInt64
  loadAddress : UInt64
  fileSize : UInt64

/-- The size of a section in its table. -/
def ElfForm.sectionSize (form : ElfForm) : Nat := if form.wide then 64 else 40

/-- The size of a segment in its table. -/
def ElfForm.segmentSize (form : ElfForm) : Nat := if form.wide then 56 else 32

/-- Where the fields of a section entry stand: kind, flags, address, offset, size and info, then
the end of the entry. -/
def ElfForm.sectionFields (form : ElfForm) : List (Nat × Nat) :=
  if form.wide then [(4, 4), (8, 8), (16, 8), (24, 8), (32, 8), (44, 4), (56, 8)]
  else [(4, 4), (8, 4), (12, 4), (16, 4), (20, 4), (28, 4), (36, 4)]

/-- Where the fields of a segment entry stand: kind, offset, load address and size. -/
def ElfForm.segmentFields (form : ElfForm) : List (Nat × Nat) :=
  if form.wide then [(0, 4), (8, 8), (24, 8), (32, 8)] else [(0, 4), (4, 4), (12, 4), (16, 4)]

/-- The section with the given fields. -/
def Section.ofNumbers : List UInt64 → Section
  | kind :: flags :: address :: offset :: size :: info :: _ =>
    ⟨kind, flags, address, offset, size, info⟩
  | _ => ⟨0, 0, 0, 0, 0, 0⟩

/-- The segment with the given fields. -/
def Segment.ofNumbers : List UInt64 → Segment
  | kind :: offset :: address :: size :: _ => ⟨kind, offset, address, size⟩
  | _ => ⟨0, 0, 0, 0⟩

/-- The section that is described at a place. -/
def ElfForm.sectionAt (form : ElfForm) (data : ByteArray) (place : Nat) :
    Except ElfFault Section := do
  return .ofNumbers (← form.numbers data place form.sectionFields)

/-- The segment that is described at a place. -/
def ElfForm.segmentAt (form : ElfForm) (data : ByteArray) (place : Nat) :
    Except ElfFault Segment := do
  return .ofNumbers (← form.numbers data place form.segmentFields)

/-! ## The file -/

/-- The tables of a file; without a section table the file has nothing to load. -/
structure Elf where
  form : ElfForm
  segments : List Segment
  sections : Option (List Section)

/-- The bytes that a file starts with. -/
def magicBytes : List UInt8 := [0x7F, 0x45, 0x4C, 0x46]

/-- Reads how the numbers of a file are written. -/
def readForm (data : ByteArray) : Except ElfFault ElfForm := do
  let ident := (← slice data 0 16).toList
  let byte (i : Nat) : Nat := (ident[i]?.getD 0).toNat
  if ident.take 4 ≠ magicBytes then .error (.magic (ident.take 4))
  else if byte 6 ≠ 1 then .error (.version (byte 6))
  else if byte 4 ≠ 1 ∧ byte 4 ≠ 2 then .error (.width (byte 4))
  else if byte 5 ≠ 1 ∧ byte 5 ≠ 2 then .error (.byteOrder (byte 5))
  else .ok ⟨byte 4 = 2, byte 5 = 2⟩

/-- Where the tables of a file are. -/
structure TablePlace where
  offset : Nat
  entrySize : Nat
  count : Nat

/-- Checks that a table lies in the file, and answers the places of its entries. -/
def TablePlace.entries (table : TablePlace) (data : ByteArray) (expected : Nat) :
    Except ElfFault (List Nat) := do
  if table.entrySize ≠ expected then .error (.entrySize table.entrySize expected)
  else if addressSpace ≤ table.entrySize * table.count then .error .overflow
  else
    match addAddress? table.offset (table.entrySize * table.count) with
    | none => .error .overflow
    | some stop =>
      let _ ← slice data table.offset stop
      return (List.range table.count).map fun i => table.offset + i * table.entrySize

/-- The number of segments that stands for one in the section table. -/
def manySegments : Nat := 0xFFFF

/-- The sections of a file; the first section holds their number where the header cannot. -/
def readSections (form : ElfForm) (data : ByteArray) (table : TablePlace) :
    Except ElfFault (Option (List Section)) := do
  if table.offset = 0 then return none
  else
    let count ← if table.count = 0 then
        (·.size.toNat) <$> form.sectionAt data table.offset
      else pure table.count
    let places ← TablePlace.entries { table with count := count } data form.sectionSize
    return some (← places.mapM (form.sectionAt data))

/-- The segments of a file; the first section holds their number where the header cannot. -/
def readSegments (form : ElfForm) (data : ByteArray) (table : TablePlace) (sections : Nat) :
    Except ElfFault (List Segment) := do
  if table.offset = 0 then return []
  else
    let count ← if table.count = manySegments then
        (·.info.toNat) <$> form.sectionAt data sections
      else pure table.count
    let places ← TablePlace.entries { table with count := count } data form.segmentSize
    places.mapM (form.segmentAt data)

/-- Where the header says that the two tables are: the place, the entry size and the number of
entries of the segments, then of the sections, then the end of the header. -/
def ElfForm.headerFields (form : ElfForm) : List (Nat × Nat) :=
  if form.wide then [(32, 8), (54, 2), (56, 2), (40, 8), (58, 2), (60, 2), (62, 2)]
  else [(28, 4), (42, 2), (44, 2), (32, 4), (46, 2), (48, 2), (50, 2)]

/-- The size of the header. -/
def ElfForm.headerSize (form : ElfForm) : Nat := if form.wide then 64 else 52

/-- Reads the tables of a file. -/
def Elf.read (data : ByteArray) : Except ElfFault Elf := do
  let form ← readForm data
  let _ ← slice data 16 form.headerSize
  let fields ← form.numbers data 0 form.headerFields
  let field (i : Nat) : Nat := (fields[i]?.getD 0).toNat
  let sections ← readSections form data ⟨field 3, field 4, field 5⟩
  let segments ← readSegments form data ⟨field 0, field 1, field 2⟩ (field 3)
  return ⟨form, segments, sections⟩

/-- The flag of sections that are stored compressed, behind a header of their own. -/
def compressedFlag : UInt64 := 0x800

/-- The size of the header of compressed content. -/
def ElfForm.compressionSize (form : ElfForm) : Nat := if form.wide then 24 else 12

/-- The content of a section, without the header of compressed content. -/
def ElfForm.sectionData (form : ElfForm) (data : ByteArray) (part : Section) :
    Except ElfFault ByteArray := do
  let start := part.offset.toNat
  match addAddress? start part.size.toNat with
  | none => .error .overflow
  | some stop =>
    let bytes ← slice data start stop
    if part.flags &&& compressedFlag = 0 then return bytes
    else
      let _ ← slice bytes 0 form.compressionSize
      return bytes.extract form.compressionSize bytes.size

end Cartridge.Rom
