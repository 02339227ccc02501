import Cartridge.Digest.Call
import Cartridge.Digest.Sha256
import Cartridge.Text.Hex

/-!
# Content keys

A content key identifies a structured value within a domain: the hexadecimal digest of the
domain's tag followed by the value's calls.
-/

namespace Cartridge.Digest

/-- A hexadecimal digest. -/
structure Key where
  text : String
  deriving DecidableEq

/-- The bytes that a key of a domain is the digest of. -/
def keyStream (domain : String) (calls : List Call) : List UInt8 :=
  stream (.tag domain :: calls)

/-- The key of calls in a domain. -/
def Key.ofCalls (domain : String) (calls : List Call) : Key :=
  ⟨Text.hexOf (Sha256.digest ⟨(keyStream domain calls).toArray⟩)⟩

/-- The key of a value in a domain. -/
def Key.ofValue [Digestible α] (domain : String) (value : α) : Key :=
  .ofCalls domain (calls value)

/-- The key of bytes in a domain. -/
def Key.ofBytes (domain : String) (content : List UInt8) : Key :=
  .ofCalls domain [.bytes content]

/-- The first two characters, which spread stored entries over directories. -/
def Key.shard (key : Key) : String :=
  String.ofList (key.text.toList.take 2)

/-- The first bytes of a key. -/
def Key.bytes (key : Key) (n : Nat) : List UInt8 :=
  ((Text.bytesOfHex? key.text).getD []).take n

end Cartridge.Digest
