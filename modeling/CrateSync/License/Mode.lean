/-
# Kinds of license

A crate is published under a permissive license or kept proprietary; which of the two, and for
whom, is all that the notice and the manifest depend on.
-/
import CrateSync.Text.Quoted
import CrateSync.Text.Raw

namespace CrateSync

/-- The kind of license. -/
inductive LicenseMode where
  | permissive
  | proprietary
  deriving DecidableEq, Repr

namespace LicenseMode

/-- The name of a kind. -/
def name : LicenseMode → Text
  | permissive => "permissive"
  | proprietary => "proprietary"

/-- All kinds. -/
def all : List LicenseMode :=
  [permissive, proprietary]

/-- The kind with a name. -/
def ofName? (t : Text) : Option LicenseMode :=
  all.find? fun mode => mode.name == t

/-- What is said of a name that no kind has. -/
def unknownMessage (t : Text) : Text :=
  Text.quoted t ++ " is not a valid LicenseMode"

end LicenseMode

/-- A license: its kind and who holds the rights. -/
structure License where
  mode : LicenseMode
  owner : RawText
  deriving DecidableEq, Repr

/-- The name of the file that holds the notice. -/
def licenseFile : Text := "LICENSE"

end CrateSync
