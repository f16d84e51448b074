/-!
Files by their path, and why one cannot be read.
-/

namespace NodeSelection

/-- Why a file cannot be read as a text. -/
inductive ReadError where
  | notFound
  | notADirectory
  | isADirectory
  /-- The path, or a step of it, is longer than a file system takes. -/
  | nameTooLong
  /-- The path holds a character that ends a name. -/
  | badName
  /-- The bytes are no UTF-8. -/
  | notText
  /-- Another reason, in the words of the system. -/
  | other (reason : String)
deriving DecidableEq, Repr

def ReadError.message : ReadError → String
  | notFound => "No such file or directory (os error 2)"
  | notADirectory => "Not a directory (os error 20)"
  | isADirectory => "Is a directory (os error 21)"
  | nameTooLong => "File name too long (os error 36)"
  | badName => "file name contained an unexpected NUL byte"
  | notText => "stream did not contain valid UTF-8"
  | other reason => reason

/-- What reading the file at a path gives. -/
abbrev Files := String → Except ReadError String

/-- The text of a file's bytes. -/
def textOfBytes (bytes : ByteArray) : Except ReadError String :=
  match String.fromUTF8? bytes with
  | some text => .ok text
  | none => .error .notText

end NodeSelection
