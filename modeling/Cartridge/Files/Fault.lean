/-!
# Faults of the file system

Why an operation on files failed, with the text the operating system has for it.
-/

namespace Cartridge.Files

/-- Why an operation on files failed. -/
inductive Fault
  | notFound
  | denied
  | notExecutable
  | alreadyExists
  | notFolder
  | isFolder
  | notEmpty
  | invalid
  | nameTooLong
  | notRegular
  | notText
  | unexpectedEnd
  | zeroInName
  | zeroInCall
  | badStream
  | endlessLinks
  deriving DecidableEq

/-- The text of a fault. -/
def Fault.message : Fault → String
  | .notFound => "No such file or directory (os error 2)"
  | .denied => "Permission denied (os error 13)"
  | .notExecutable => "Exec format error (os error 8)"
  | .alreadyExists => "File exists (os error 17)"
  | .notFolder => "Not a directory (os error 20)"
  | .isFolder => "Is a directory (os error 21)"
  | .notEmpty => "Directory not empty (os error 39)"
  | .invalid => "Invalid argument (os error 22)"
  | .nameTooLong => "File name too long (os error 36)"
  | .notRegular => "the source path is neither a regular file nor a symlink to a regular file"
  | .notText => "stream did not contain valid UTF-8"
  | .unexpectedEnd => "unexpected end of file"
  | .zeroInName => "file name contained an unexpected NUL byte"
  | .zeroInCall => "nul byte found in provided data"
  | .badStream => "Bad file descriptor (os error 9)"
  | .endlessLinks => "Too many levels of symbolic links (os error 40)"

end Cartridge.Files
