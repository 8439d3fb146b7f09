/-
# Jobs

A job changes files, records what it did, and may stop before its end.  What was changed and
recorded up to then stays.  The operations here are those of the file system, each as a job that
stops with the error of the operation.  Writing a text is two operations: the file is opened, which
empties it, and then filled.
-/
import CrateSync.FileSystem.Access
import CrateSync.Sync.Report
import CrateSync.Text.Raw
import CrateSync.Toml.Error

namespace CrateSync.Sync

/-- The files and the report while jobs run. -/
structure Progress where
  fs : FileSystem
  report : Report
  deriving DecidableEq, Repr

/-- The progress with an action recorded. -/
def Progress.record (p : Progress) (path : Text) (outcome : Outcome) (detail : Text) : Progress :=
  { p with report := p.report ++ [⟨path, outcome, detail⟩] }

/-- What can go wrong with a file. -/
inductive Trouble where
  | system (e : SystemError)
  | copy (e : FileSystem.CopyError)
  /-- A file that should be text is not UTF-8. -/
  | notText (m : Utf8.Malformed)
  /-- A text that should go into a file has no octets. -/
  | notEncodable (u : RawText.Unencodable)
  deriving DecidableEq, Repr

/-- The wording of a trouble. -/
def Trouble.message : Trouble → Text
  | .system e => e.message
  | .copy e => e.message
  | .notText m => m.message
  | .notEncodable u => u.message

/-- Why a job stops: a trouble with a file, or something in the manifest that goes beyond the bounds of
reading. -/
inductive Stop where
  | trouble (t : Trouble)
  | excess (e : Toml.Excess)
  deriving DecidableEq, Repr

/-- A job with a result. -/
abbrev Job := ExceptT Stop (StateM Progress)

namespace Job

/-- Stops a job. -/
def stop {α : Type} (s : Stop) : Job α :=
  throw s

/-- The result of asking the file system, or its error. -/
def ask {α : Type} (question : FileSystem → Except SystemError α) : Job α := do
  match question (← get).fs with
  | .ok a => return a
  | .error e => stop (.trouble (.system e))

/-- Goes on with a changed file system. -/
def setFiles (fs : FileSystem) : Job Unit :=
  modify fun p => { p with fs }

/-- Records an action. -/
def record (path : Text) (outcome : Outcome) (detail : Text) : Job Unit :=
  modify fun p => p.record path outcome detail

/-- The text of a file, which has to be UTF-8. -/
def readText (p : Path) : Job Text := do
  let octets ← ask fun fs => fs.read p
  match Utf8.decode octets with
  | .ok t => return t
  | .error m => stop (.trouble (.notText m))

/-- Puts a file at a location. -/
def putFile (loc : Location) (content : Octets) : Job Unit :=
  modify fun p => { p with fs := p.fs.put loc (.file content) }

/-- Fills a file with a text.  The file is opened first, which makes it or empties it; so it is left empty
if the text has no octets. -/
def writeText (p : Path) (t : RawText) : Job Unit := do
  let loc ← ask fun fs => fs.writeLocation p
  putFile loc []
  match t.encode with
  | .ok octets => putFile loc octets
  | .error u => stop (.trouble (.notEncodable u))

/-- Copies a file. -/
def copyFile (source destination : Path) : Job Unit := do
  match (← get).fs.copy source destination with
  | .ok fs => setFiles fs
  | .error e => stop (.trouble (.copy e))

/-- Makes a directory and the missing ones above it. -/
def makeDirectories (p : Path) : Job Unit := do
  let (fs, outcome) := (← get).fs.makeDirectories p
  setFiles fs
  match outcome with
  | .ok () => return ()
  | .error e => stop (.trouble (.system e))

end Job

end CrateSync.Sync
