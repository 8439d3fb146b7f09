/-
# Running a synchronisation

The steps in order.  Each is independent of the others: a trouble with a file ends its step only, is
recorded under the name of the step, and the run goes on.  A crate without a manifest is not
touched at all.
-/
import CrateSync.Sync.Steps

namespace CrateSync.Sync

/-- A step and the name under which a trouble is recorded. -/
structure Step where
  name : Text
  job : Job Unit

/-- The steps of a synchronisation in the year that the notice names. -/
def steps (s : Settings) (year : Int) : List Step :=
  configFiles.map (fun name => ⟨name, copyStep s name name⟩)
    ++ [⟨workflowFile, copyStep s workflowFile workflowFile⟩,
      ⟨developmentDocs, copyStep s templateDocs developmentDocs⟩,
      ⟨readmeFile, readmeStep s⟩,
      ⟨libraryRoot, headerStep s⟩,
      ⟨licenseFile, licenseStep s year⟩]

/-- Runs a step.  A trouble becomes a failed action; what goes beyond the bounds of reading ends the
whole run and is returned. -/
def Step.run (step : Step) (p : Progress) : Progress × Option Toml.Excess :=
  match ExceptT.run step.job p with
  | (.ok (), p) => (p, none)
  | (.error (.trouble t), p) => (p.record step.name .failed t.message, none)
  | (.error (.excess e), p) => (p, some e)

/-- Runs steps in order. -/
def runSteps : List Step → Progress → Progress × Option Toml.Excess
  | [], p => (p, none)
  | step :: rest, p =>
    match step.run p with
    | (p, none) => runSteps rest p
    | (p, some e) => (p, some e)

/-- Why a synchronisation gives no report. -/
inductive Failure where
  | noManifest (root : Path)
  | system (e : SystemError)
  | excess (e : Toml.Excess)
  deriving DecidableEq, Repr

/-- The wording of a failure. -/
def Failure.message : Failure → Text
  | .noManifest root =>
    "Missing " ++ manifestFile ++ " in " ++ root.toText ++ ". Run from the crate root."
  | .system e => e.message
  | .excess e => e.message

/-- Runs a list of steps on a file system. -/
def perform (steps : List Step) (fs : FileSystem) : FileSystem × Except Failure Report :=
  match runSteps steps ⟨fs, []⟩ with
  | (p, none) => (p.fs, .ok p.report)
  | (p, some e) => (p.fs, .error (.excess e))

/-- Brings a crate up to date: the changed file system, and the report or the reason why there is
none. -/
def run (s : Settings) (year : Int) (fs : FileSystem) : FileSystem × Except Failure Report :=
  match fs.isFile (s.target.along manifestFile) with
  | .error e => (fs, .error (.system e))
  | .ok false => (fs, .error (.noManifest s.target))
  | .ok true => perform (steps s year) fs

end CrateSync.Sync
