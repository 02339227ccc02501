/-!
# Bytes of a text

A text is stored as UTF-8.  `utf8` gives its bytes and `ofUtf8?` reads them back.  `lossy` reads
any bytes: each longest piece that could start a character but does not finish one becomes one
replacement character.
-/

namespace Cartridge.Text

/-- The bytes of a text. -/
def utf8 (s : String) : List UInt8 :=
  s.toUTF8.data.toList

/-- The text with the given bytes, if there is one. -/
def ofUtf8? (bytes : ByteArray) : Option String :=
  String.fromUTF8? bytes

/-- A byte that goes on with a character. -/
def isContinuation (b : UInt8) : Bool :=
  0x80 ≤ b && b ≤ 0xBF

/-- The second byte may follow the first in a character of three bytes. -/
def validTriple (a b : UInt8) : Bool :=
  (a == 0xE0 && 0xA0 ≤ b && b ≤ 0xBF) || (0xE1 ≤ a && a ≤ 0xEC && isContinuation b) ||
    (a == 0xED && 0x80 ≤ b && b ≤ 0x9F) || (0xEE ≤ a && a ≤ 0xEF && isContinuation b)

/-- The second byte may follow the first in a character of four bytes. -/
def validQuadruple (a b : UInt8) : Bool :=
  (a == 0xF0 && 0x90 ≤ b && b ≤ 0xBF) || (0xF1 ≤ a && a ≤ 0xF3 && isContinuation b) ||
    (a == 0xF4 && 0x80 ≤ b && b ≤ 0x8F)

/-- The low six bits of a continuation byte. -/
def tailBits (b : UInt8) : Nat :=
  b.toNat % 64

/-- The mark for bytes that are no text. -/
def replacement : Char := Char.ofNat 0xFFFD

/-- Reads bytes as text, replacing what is not text. -/
def lossyChars : List UInt8 → List Char
  | [] => []
  | a :: rest =>
    if a < 0x80 then Char.ofNat a.toNat :: lossyChars rest
    else if 0xC2 ≤ a && a ≤ 0xDF then
      match rest with
      | b :: rest' =>
        if isContinuation b then
          Char.ofNat (a.toNat % 32 * 64 + tailBits b) :: lossyChars rest'
        else replacement :: lossyChars (b :: rest')
      | [] => [replacement]
    else if 0xE0 ≤ a && a ≤ 0xEF then
      match rest with
      | b :: rest' =>
        if validTriple a b then
          match rest' with
          | c :: rest'' =>
            if isContinuation c then
              Char.ofNat ((a.toNat % 16 * 64 + tailBits b) * 64 + tailBits c) :: lossyChars rest''
            else replacement :: lossyChars (c :: rest'')
          | [] => [replacement]
        else replacement :: lossyChars (b :: rest')
      | [] => [replacement]
    else if 0xF0 ≤ a && a ≤ 0xF4 then
      match rest with
      | b :: rest' =>
        if validQuadruple a b then
          match rest' with
          | c :: rest'' =>
            if isContinuation c then
              match rest'' with
              | d :: rest''' =>
                if isContinuation d then
                  Char.ofNat (((a.toNat % 8 * 64 + tailBits b) * 64 + tailBits c) * 64 + tailBits d)
                    :: lossyChars rest'''
                else replacement :: lossyChars (d :: rest''')
              | [] => [replacement]
            else replacement :: lossyChars (c :: rest'')
          | [] => [replacement]
        else replacement :: lossyChars (b :: rest')
      | [] => [replacement]
    else replacement :: lossyChars rest

/-- Reads bytes as text, replacing what is not text. -/
def lossy (bytes : List UInt8) : String :=
  String.ofList (lossyChars bytes)

end Cartridge.Text
