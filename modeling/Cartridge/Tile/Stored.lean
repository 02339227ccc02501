import Cartridge.Tile.Encoder

/-!
# Stored pictures

The ending of a file's name says in which format a picture is stored.  One format is read, by a
decoder for its bytes; the others are known by name only.
-/

namespace Cartridge.Tile

open Cartridge.Compile (Cause)
open Cartridge.Files (Fault)

/-- Formats of pictures by the endings of names. -/
def formatNames : List (String × String) :=
  [("avif", "Avif"), ("jpg", "Jpeg"), ("jpeg", "Jpeg"), ("jfif", "Jpeg"), ("png", "Png"),
    ("apng", "Png"), ("gif", "Gif"), ("webp", "WebP"), ("tif", "Tiff"), ("tiff", "Tiff"),
    ("tga", "Tga"), ("dds", "Dds"), ("bmp", "Bmp"), ("ico", "Ico"), ("hdr", "Hdr"),
    ("exr", "OpenExr"), ("pbm", "Pnm"), ("pam", "Pnm"), ("ppm", "Pnm"), ("pgm", "Pnm"),
    ("pnm", "Pnm"), ("ff", "Farbfeld"), ("qoi", "Qoi")]

/-- The format that is read. -/
def readFormat : String := "Png"

/-- The bytes that a stored picture starts with. -/
def pictureSignature : List UInt8 := [0x89, 0x50, 0x4E, 0x47, 0x0D, 0x0A, 0x1A, 0x0A]

/-- What is wrong with bytes that hold no picture: another signature, or a missing end.  The
signature is read in two halves. -/
def pictureFault (bytes : List UInt8) : Cause :=
  let half := if bytes.length < 8 then 4 else 8
  let wrong := "Invalid PNG signature."
  if 4 ≤ bytes.length && bytes.take half != pictureSignature.take half then
    ["Format error decoding " ++ readFormat ++ ": " ++ wrong, wrong]
  else [Fault.unexpectedEnd.message]

/-- The decoder that chooses the format by the name of the file, with a decoder for the bytes of the
format that is read. -/
def storedPictures (pixels : ByteArray → Option Picture) : PictureDecoder := fun tree path => do
  let entry ← (tree.find path).mapError fun fault => [fault.message]
  match path.extension?.filter (· != "") with
  | none => .error ["The image format could not be determined"]
  | some ending =>
    match formatNames.lookup (String.ofList (ending.toList.map Char.toLower)), entry with
    | none, _ =>
      .error ["The file extension \x60.\"" ++ ending ++
        "\"\x60 was not recognized as an image format"]
    | some format, entry =>
      if format != readFormat then .error ["The image format " ++ format ++ " is not supported"]
      else
        match entry with
        | .folder => .error [Fault.isFolder.message]
        | .file content _ =>
          match pixels content.data with
          | some picture => .ok picture
          | none => .error (pictureFault content.data.data.toList)

end Cartridge.Tile
