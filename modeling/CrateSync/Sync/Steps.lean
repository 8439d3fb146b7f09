/-
# The steps of a synchronisation

What is brought up to date in a crate: files that are copied from the template, a pointer in the
readme, a header in the root source file, and the license with its entries in the manifest.  A file
that is there already is overwritten only if the settings say so; the readme, the source file and
the manifest are patched instead, and keep what the user wrote.
-/
import CrateSync.Config.Settings
import CrateSync.License.Notice
import CrateSync.Manifest.Edit
import CrateSync.Patch
import CrateSync.Sync.Job

namespace CrateSync.Sync

/-! ## The files concerned -/

/-- The manifest of a crate. -/
def manifestFile : Text := "Cargo.toml"

/-- The configuration files, which have the same name in the template and in the crate. -/
def configFiles : List Text :=
  ["clippy.toml", "deny.toml", "rust-toolchain.toml", "rustfmt.toml"]

/-- The workflow file, which has the same name in the template and in the crate. -/
def workflowFile : Text := ".github/workflows/ci.yml"

/-- The instructions for developers, in the template. -/
def templateDocs : Text := "README.md"

/-- The instructions for developers, in the crate. -/
def developmentDocs : Text := "DEVELOPMENT.md"

/-- The readme of a crate. -/
def readmeFile : Text := "README.md"

/-- The line of the readme that points to the instructions. -/
def readmePointer : Text :=
  "See [" ++ developmentDocs ++ "](" ++ developmentDocs ++ ") for development setup."

/-- The header in the template. -/
def headerTemplate : Text := "src/header.rs"

/-- The root source file of a library. -/
def libraryRoot : Text := "src/lib.rs"

/-- The root source file of a program. -/
def programRoot : Text := "src/main.rs"

/-! ## Steps -/

/-- The remark on a file that is not overwritten. -/
def keptRemark : Text := "already exists (use --force to overwrite)"

/-- The remark on a file that the template does not have. -/
def missingRemark (source : Path) : Text :=
  "template file missing: " ++ source.toText

/-- The outcome of filling a file, depending on whether it was there before. -/
def filledOutcome (existed : Bool) : Outcome :=
  if existed then .overwritten else .created

/-- Copies a file of the template into the crate. -/
def copyStep (s : Settings) (sourceName name : Text) : Job Unit := do
  let source := s.template.along sourceName
  let destination := s.target.along name
  if ← Job.ask fun fs => fs.isFile source then
    let existed ← Job.ask fun fs => fs.exists? destination
    if existed && !s.force then
      Job.record name .skipped keptRemark
    else
      Job.makeDirectories destination.parent
      Job.copyFile source destination
      Job.record name (filledOutcome existed) []
  else
    Job.record name .failed (missingRemark source)

/-- Makes the readme point to the instructions for developers. -/
def readmeStep (s : Settings) : Job Unit := do
  let readme := s.target.along readmeFile
  if ← Job.ask fun fs => fs.exists? readme then
    match Patch.prependOnce (← Job.readText readme) readmePointer with
    | none => Job.record readmeFile .unchanged ("already links " ++ developmentDocs)
    | some updated =>
      Job.writeText readme updated
      Job.record readmeFile .updated ("linked " ++ developmentDocs)
  else
    Job.writeText readme (.ofText (readmePointer ++ ['\n']))
    Job.record readmeFile .created []

/-- The name of the root source file, if the crate has one. -/
def sourceRoot? (s : Settings) : Job (Option Text) := do
  if ← Job.ask fun fs => fs.isFile (s.target.along libraryRoot) then
    return some libraryRoot
  else if ← Job.ask fun fs => fs.isFile (s.target.along programRoot) then
    return some programRoot
  else
    return none

/-- Appends the header of the template to the root source file. -/
def headerStep (s : Settings) : Job Unit := do
  match ← sourceRoot? s with
  | none => Job.record libraryRoot .skipped "no crate root source file"
  | some name =>
    let header := s.template.along headerTemplate
    if ← Job.ask fun fs => fs.isFile header then
      let source := s.target.along name
      let existing ← Job.readText source
      match Patch.appendOnce existing (← Job.readText header) with
      | none => Job.record name .unchanged "header already present"
      | some updated =>
        Job.writeText source updated
        Job.record name .updated "appended header"
    else
      Job.record name .failed (missingRemark header)

/-- Makes the manifest agree with a license. -/
def manifestStep (s : Settings) (mode : LicenseMode) : Job Unit := do
  let manifest := s.target.along manifestFile
  match Manifest.setLicense mode (← Job.readText manifest) with
  | .error (.excess e) => Job.stop (.excess e)
  | .error (.fault f) => Job.record manifestFile .skipped f.message
  | .ok none => Job.record manifestFile .unchanged "license metadata already set"
  | .ok (some updated) =>
    Job.writeText manifest updated
    Job.record manifestFile .updated "license metadata"

/-- Writes the notice of the license, and then makes the manifest agree with it. -/
def licenseStep (s : Settings) (year : Int) : Job Unit := do
  match s.license with
  | none =>
    Job.record licenseFile .skipped "no owner name (use --name, --private or CRATEKIT_OWNER)"
  | some license =>
    let file := s.target.along licenseFile
    let existed ← Job.ask fun fs => fs.exists? file
    if existed && !s.force then
      Job.record licenseFile .skipped keptRemark
    else
      Job.writeText file (license.notice year)
      Job.record licenseFile (filledOutcome existed)
        (license.mode.name ++ " license for " ++ license.owner.characters)
      manifestStep s license.mode

end CrateSync.Sync
