/-!
# The SHA-256 digest

The message is padded to whole blocks of sixty-four bytes.  Each block is expanded to a schedule
of sixty-four words and mixed into a state of eight words, one word a round.  The digest is the
final state, most significant byte first.
-/

namespace Cartridge.Digest.Sha256

/-- The constants of the rounds. -/
def constants : Array UInt32 := #[
  0x428a2f98, 0x71374491, 0xb5c0fbcf, 0xe9b5dba5, 0x3956c25b, 0x59f111f1, 0x923f82a4, 0xab1c5ed5,
  0xd807aa98, 0x12835b01, 0x243185be, 0x550c7dc3, 0x72be5d74, 0x80deb1fe, 0x9bdc06a7, 0xc19bf174,
  0xe49b69c1, 0xefbe4786, 0x0fc19dc6, 0x240ca1cc, 0x2de92c6f, 0x4a7484aa, 0x5cb0a9dc, 0x76f988da,
  0x983e5152, 0xa831c66d, 0xb00327c8, 0xbf597fc7, 0xc6e00bf3, 0xd5a79147, 0x06ca6351, 0x14292967,
  0x27b70a85, 0x2e1b2138, 0x4d2c6dfc, 0x53380d13, 0x650a7354, 0x766a0abb, 0x81c2c92e, 0x92722c85,
  0xa2bfe8a1, 0xa81a664b, 0xc24b8b70, 0xc76c51a3, 0xd192e819, 0xd6990624, 0xf40e3585, 0x106aa070,
  0x19a4c116, 0x1e376c08, 0x2748774c, 0x34b0bcb5, 0x391c0cb3, 0x4ed8aa4a, 0x5b9cca4f, 0x682e6ff3,
  0x748f82ee, 0x78a5636f, 0x84c87814, 0x8cc70208, 0x90befffa, 0xa4506ceb, 0xbef9a3f7, 0xc67178f2]

/-- The eight words mixed by every block. -/
structure State where
  a : UInt32
  b : UInt32
  c : UInt32
  d : UInt32
  e : UInt32
  f : UInt32
  g : UInt32
  h : UInt32

/-- The state before the first block. -/
def initial : State :=
  ⟨0x6a09e667, 0xbb67ae85, 0x3c6ef372, 0xa54ff53a, 0x510e527f, 0x9b05688c, 0x1f83d9ab, 0x5be0cd19⟩

/-- The word with its bits moved to the right in a circle. -/
def rotate (x : UInt32) (n : UInt32) : UInt32 :=
  (x >>> n) ||| (x <<< (32 - n))

/-- One round with a round constant and a word of the schedule. -/
def State.round (s : State) (k w : UInt32) : State :=
  let s1 := rotate s.e 6 ^^^ rotate s.e 11 ^^^ rotate s.e 25
  let choice := (s.e &&& s.f) ^^^ ((~~~ s.e) &&& s.g)
  let t1 := s.h + s1 + choice + k + w
  let s0 := rotate s.a 2 ^^^ rotate s.a 13 ^^^ rotate s.a 22
  let majority := (s.a &&& s.b) ^^^ (s.a &&& s.c) ^^^ (s.b &&& s.c)
  ⟨t1 + (s0 + majority), s.a, s.b, s.c, s.d + t1, s.e, s.f, s.g⟩

/-- The sum of two states, word by word. -/
def State.add (s t : State) : State :=
  ⟨s.a + t.a, s.b + t.b, s.c + t.c, s.d + t.d, s.e + t.e, s.f + t.f, s.g + t.g, s.h + t.h⟩

/-- The word of the schedule at position `i ≥ 16`, from the words before it. -/
def nextWord (words : Array UInt32) (i : Nat) : UInt32 :=
  let w15 := words.getD (i - 15) 0
  let w2 := words.getD (i - 2) 0
  let s0 := rotate w15 7 ^^^ rotate w15 18 ^^^ (w15 >>> 3)
  let s1 := rotate w2 17 ^^^ rotate w2 19 ^^^ (w2 >>> 10)
  words.getD (i - 16) 0 + s0 + words.getD (i - 7) 0 + s1

/-- The byte at a position, zero past the end. -/
def byteAt (message : ByteArray) (i : Nat) : UInt32 :=
  if h : i < message.size then message[i].toUInt32 else 0

/-- Four bytes as a word, most significant first. -/
def wordAt (message : ByteArray) (i : Nat) : UInt32 :=
  (byteAt message i <<< 24) ||| (byteAt message (i + 1) <<< 16) |||
    (byteAt message (i + 2) <<< 8) ||| byteAt message (i + 3)

/-- The words of a block that the rounds mix in. -/
def schedule (message : ByteArray) (start : Nat) : Array UInt32 :=
  let first := Nat.fold 16 (fun i _ words => words.push (wordAt message (start + 4 * i)))
    (Array.emptyWithCapacity 64)
  Nat.fold 48 (fun i _ words => words.push (nextWord words (i + 16))) first

/-- The state after a block. -/
def compress (message : ByteArray) (s : State) (start : Nat) : State :=
  let words := schedule message start
  s.add (Nat.fold 64 (fun i _ t => t.round (constants.getD i 0) (words.getD i 0)) s)

/-- The eight bytes of a number below `2 ^ 64`, most significant first. -/
def lengthBytes (n : Nat) : List UInt8 :=
  [56, 48, 40, 32, 24, 16, 8, 0].map fun shift => UInt8.ofNat (n >>> shift)

/-- The message with its end mark, zeros up to a whole block, and its length in bits. -/
def pad (message : ByteArray) : ByteArray :=
  let zeros := (55 + 64 - message.size % 64) % 64
  let marked := Nat.fold zeros (fun _ _ bytes => bytes.push 0) (message.push 0x80)
  (lengthBytes (8 * message.size)).foldl ByteArray.push marked

/-- The bytes of a word, most significant first. -/
def wordBytes (w : UInt32) : List UInt8 :=
  [(w >>> 24).toUInt8, (w >>> 16).toUInt8, (w >>> 8).toUInt8, w.toUInt8]

/-- The digest of a message. -/
def digest (message : ByteArray) : List UInt8 :=
  let padded := pad message
  let s := Nat.fold (padded.size / 64) (fun i _ s => compress padded s (64 * i)) initial
  [s.a, s.b, s.c, s.d, s.e, s.f, s.g, s.h].flatMap wordBytes

end Cartridge.Digest.Sha256
