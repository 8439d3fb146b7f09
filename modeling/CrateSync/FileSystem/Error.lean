/-
# Errors of the file system

An operation on the file system fails for one of a few causes, and the error names the path that
it was asked about.  Starting a command can fail for any cause of the operating system; such an
error names the command.
-/
import CrateSync.FileSystem.Path

namespace CrateSync

/-- Why an operation on the file system fails. -/
inductive Errno where
  | noEntry
  | fileExists
  | notDirectory
  | isDirectory
  | nameTooLong
  | tooManyLinks
  deriving DecidableEq, Repr

/-- The number of a cause. -/
def Errno.number : Errno → Nat
  | .noEntry => 2
  | .fileExists => 17
  | .notDirectory => 20
  | .isDirectory => 21
  | .nameTooLong => 36
  | .tooManyLinks => 40

/-- The description of a cause. -/
def Errno.description : Errno → Text
  | .noEntry => "No such file or directory"
  | .fileExists => "File exists"
  | .notDirectory => "Not a directory"
  | .isDirectory => "Is a directory"
  | .nameTooLong => "File name too long"
  | .tooManyLinks => "Too many levels of symbolic links"

/-- An error of the operating system: its number, its description and what it is about. -/
structure SystemError where
  number : Int
  description : Text
  subject : Text
  deriving DecidableEq, Repr

/-- The wording of an error. -/
def SystemError.message (e : SystemError) : Text :=
  "[Errno " ++ Text.ofInt e.number ++ "] " ++ e.description ++ ": " ++ Text.quoted e.subject

/-- The error with a cause about a path. -/
def Errno.about (e : Errno) (p : Path) : SystemError :=
  ⟨e.number, e.description, p.toText⟩

end CrateSync
