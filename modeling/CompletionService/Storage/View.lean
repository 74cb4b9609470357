/-!
# Files

What the service sees of a file system: whether something is at a path, and what a file holds.
-/

namespace CompletionService

/-- Why a file was not read as a text. -/
inductive ReadFault
  | notFound
  | notADirectory
  | isADirectory
  | nameTooLong
  | nulInName
  | notUtf8
  /-- anything else that the system says -/
  | other (reason : String)
  deriving DecidableEq, Repr

/-- The wording of a fault. -/
def ReadFault.message : ReadFault → String
  | .notFound => "No such file or directory (os error 2)"
  | .notADirectory => "Not a directory (os error 20)"
  | .isADirectory => "Is a directory (os error 21)"
  | .nameTooLong => "File name too long (os error 36)"
  | .nulInName => "file name contained an unexpected NUL byte"
  | .notUtf8 => "stream did not contain valid UTF-8"
  | .other reason => reason

/-- A view of a file system. -/
structure Storage where
  /-- something is at a path -/
  holds : (path : String) → Bool
  /-- the text of a file -/
  read : (path : String) → Except ReadFault String

end CompletionService
