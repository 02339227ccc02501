import Cartridge.Text.Utf8

/-!
# Texts of scripts

Scripts work on bytes.  A text of a script holds one character below 256 for each byte, so that it
can be taken apart like any other text.
-/

namespace Cartridge.Shell

/-- The text that holds the given bytes. -/
def ofBytes (bytes : List UInt8) : String :=
  String.ofList (bytes.map fun b => Char.ofNat b.toNat)

/-- The bytes that a text holds. -/
def bytesOf (s : String) : List UInt8 :=
  s.toList.map fun c => UInt8.ofNat c.toNat

/-- The text that holds the bytes of a written text. -/
def ofWritten (s : String) : String :=
  ofBytes (Text.utf8 s)

/-- The written text whose bytes a text holds. -/
def written (s : String) : String :=
  Text.lossy (bytesOf s)

end Cartridge.Shell
