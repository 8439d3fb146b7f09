/-
# Editing the license entries of a manifest

The package table of a manifest says under which license the crate is published.  `setLicense`
makes it say what the generated notice says: it touches only the lines that set one of the managed
keys and keeps every other line as it stands.  The manifest has to be a TOML document before the
edit and is checked to be one afterwards.

* `editBody` decides line by line what stays, goes or is written anew;
* `insertMissing` adds the entries that no line sets yet.
-/
import CrateSync.License.Mode
import CrateSync.Manifest.Section
import CrateSync.Toml.Document

namespace CrateSync.Manifest

/-! ## The managed entries -/

/-- What an entry is set to. -/
inductive Setting where
  | text (t : Text)
  | off
  deriving DecidableEq, Repr

/-- The value as it is written in a manifest. -/
def Setting.written : Setting → Text
  | .text t => "\"" ++ t ++ "\""
  | .off => "false"

/-- The value that the entry then has in the document. -/
def Setting.value : Setting → Toml.Value
  | .text t => .string t
  | .off => .boolean false

/-- Whether a value already says the same. -/
def Setting.agrees : Setting → Toml.Value → Bool
  | .text t, v => v.isString t
  | .off, v => v.isFalse

/-- The entries that go with a kind of license, in the order in which they are added. -/
def desired : LicenseMode → List (Text × Setting)
  | .permissive => [("license", .text "MIT")]
  | .proprietary => [("license-file", .text licenseFile), ("publish", .off)]

/-- The keys that contradict a kind of license. -/
def stale : LicenseMode → List Text
  | .permissive => ["license-file"]
  | .proprietary => ["license"]

/-- The keys that the edit is about. -/
def managed (mode : LicenseMode) : List Text :=
  (desired mode).map Prod.fst ++ stale mode

/-- The managed key that a line sets. -/
def managedKey? (mode : LicenseMode) (line : Text) : Option Text :=
  (managed mode).find? (setsKey line)

/-- The setting that goes with a key. -/
def setting? (mode : LicenseMode) (key : Text) : Option Setting :=
  ((desired mode).find? fun entry => entry.1 == key).map Prod.snd

/-- A line that sets a key. -/
def entryLine (key : Text) (s : Setting) (ending : Text) : Text :=
  key ++ " = " ++ s.written ++ ending

/-! ## The lines of the section -/

/-- The lines that remain of a section, and the keys that they set.  `present` holds the keys that
the lines so far set.  A line that sets no managed key stays; of the lines that set a desired key
only the first stays, as it is if the package already has the value and written anew otherwise;
lines that set a stale key go. -/
def editBody (mode : LicenseMode) (package : Toml.Table) (newline : Text) :
    List Text → List Text → List Text × List Text
  | present, [] => ([], present)
  | present, line :: rest =>
    let keep (line : Text) (present : List Text) :=
      let (kept, present) := editBody mode package newline present rest
      (line :: kept, present)
    match managedKey? mode line with
    | none => keep line present
    | some key =>
      match setting? mode key with
      | none => editBody mode package newline present rest
      | some s =>
        if present.contains key then editBody mode package newline present rest
        else if ((package.get? key).map s.agrees).getD false then keep line (key :: present)
        else
          let ending := if Text.endsLine line then newline else []
          keep (entryLine key s ending) (key :: present)

/-- The lines for the desired entries that no line sets yet. -/
def missingLines (mode : LicenseMode) (newline : Text) (present : List Text) : List Text :=
  ((desired mode).filter fun entry => !present.contains entry.1).map fun entry =>
    entryLine entry.1 entry.2 newline

/-- A line with a break added if it does not end in one. -/
def ended (newline line : Text) : Text :=
  if Text.endsLine line then line else line ++ newline

/-- Inserts lines behind the last line of a section that is not blank, or behind the header if
there is none; the line in front of them is ended if need be. -/
def insertMissing (newline header : Text) (kept missing : List Text) : Text × List Text :=
  if missing.isEmpty then (header, kept)
  else
    let blanks := (kept.reverse.takeWhile Text.allBlank).reverse
    match kept.reverse.dropWhile Text.allBlank with
    | last :: others =>
      (header, others.reverse ++ ended newline last :: (missing ++ blanks))
    | [] => (ended newline header, missing ++ blanks)

/-- The section with its license entries set. -/
def Layout.withLicense (mode : LicenseMode) (package : Toml.Table) (l : Layout) : Layout :=
  let newline : Text := if ['\r', '\n'].isSuffixOf l.header then ['\r', '\n'] else ['\n']
  let (kept, present) := editBody mode package newline [] l.body
  let (header, body) :=
    insertMissing newline l.header kept (missingLines mode newline present)
  { l with header, body }

/-! ## The edit -/

/-- Why a manifest cannot be edited. -/
inductive Fault where
  /-- The manifest is no TOML document. -/
  | notToml (cause : Toml.Cause) (place : Toml.Place)
  /-- The document has no package table. -/
  | noPackageTable
  /-- No line is the header of the package table. -/
  | noPackageHeader
  /-- The edited text would be no TOML document. -/
  | brokenByEdit (cause : Toml.Cause) (place : Toml.Place)
  deriving DecidableEq, Repr

/-- The wording of a fault. -/
def Fault.message : Fault → Text
  | .notToml cause place =>
    "Manifest is not valid TOML: " ++ (Toml.DocumentError.malformed cause place).message
  | .noPackageTable => "Manifest has no [package] table."
  | .noPackageHeader => "Manifest has no [package] table header."
  | .brokenByEdit cause place =>
    "Updated manifest would not be valid TOML: "
      ++ (Toml.DocumentError.malformed cause place).message

/-- How an edit fails: the manifest has a fault, or holds something beyond the bounds of reading,
which is no fault of the manifest's form. -/
inductive EditError where
  | fault (f : Fault)
  | excess (e : Toml.Excess)
  deriving DecidableEq, Repr

/-- The wording of a failed edit. -/
def EditError.message : EditError → Text
  | .fault f => f.message
  | .excess e => e.message

/-- Reads a document, with a fault for texts that are none. -/
def readWith (fault : Toml.Cause → Toml.Place → Fault) (t : Text) : Except EditError Toml.Table :=
  match Toml.parse t with
  | .ok root => .ok root
  | .error (.malformed cause place) => .error (.fault (fault cause place))
  | .error (.excess e) => .error (.excess e)

/-- The package table of a document. -/
def package? (root : Toml.Table) : Option Toml.Table :=
  match root.get? "package" with
  | some (.table package) => some package
  | _ => none

/-- The manifest with its license entries set, whether or not that is a document. -/
def editedText (mode : LicenseMode) (package : Toml.Table) (l : Layout) : Text :=
  (l.withLicense mode package).lines.flatten

/-- The manifest with its license entries set to those of a kind of license, or nothing if they
are already. -/
def setLicense (mode : LicenseMode) (manifest : Text) : Except EditError (Option Text) := do
  let root ← readWith .notToml manifest
  match package? root with
  | none => .error (.fault .noPackageTable)
  | some package =>
    match Layout.ofLines? (Text.lines manifest) with
    | none => .error (.fault .noPackageHeader)
    | some layout =>
      let edited := editedText mode package layout
      if edited = manifest then return none
      else
        let _ ← readWith .brokenByEdit edited
        return some edited

end CrateSync.Manifest
