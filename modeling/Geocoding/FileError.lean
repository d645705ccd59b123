/-!
# Files that cannot be read
-/

namespace Geocoding

/-- Why a file cannot be read. -/
inductive FileError where
  | notFound
  | isDirectory
  | notADirectory
  | notText
  | other (message : String)
  deriving DecidableEq, Repr

/-- The reason in words. -/
def FileError.message : FileError → String
  | notFound => "No such file or directory (os error 2)"
  | isDirectory => "Is a directory (os error 21)"
  | notADirectory => "Not a directory (os error 20)"
  | notText => "stream did not contain valid UTF-8"
  | other message => message

/-- The contents of files by their paths. -/
abbrev Files := String → Except FileError String

end Geocoding
