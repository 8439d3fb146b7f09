/-
# Running commands

What a command does to the files, what it prints, which commands it starts and how it ends.  Most
errors are shown in the format asked for and have an exit code of their own; the few that are not
foreseen end the command as they are.
-/
import CrateSync.Command.Presentation
import CrateSync.Sync.Run
import CrateSync.TestRun.Dispatch

namespace CrateSync.Command

open Presentation

/-- All that a command depends on besides its command line. -/
structure Circumstances where
  host : Host
  env : Environment
  year : Int
  rootAnswer : Option TestRun.RootAnswer
  launch : TestRun.Launch
  deriving Repr

/-- An error that no command foresees. -/
inductive Crash where
  | settings (e : Settings.Error)
  | sync (e : Sync.Failure)
  | markup (f : Markup.Fault)
  deriving DecidableEq, Repr

/-- The wording of such an error. -/
def Crash.message : Crash → Text
  | .settings e => e.message
  | .sync e => e.message
  | .markup f => f.message

/-- How a command ran: what it printed, the commands that it started, and its exit code or the error
that it did not foresee. -/
structure Ending where
  printed : Printed
  calls : List TestRun.Call
  exit : Except Crash Int
  deriving Repr

/-- Ends with an exit code once something has been printed; what cannot be shown is an error that was
not foreseen. -/
def endWith (exitCode : Nat) (printing : Printing Printed) : Ending :=
  match printing with
  | .ok printed => ⟨printed, [], .ok exitCode⟩
  | .error fault => ⟨⟨[], []⟩, [], .error (.markup fault)⟩

/-- Ends with an error that was not foreseen. -/
def crash (c : Crash) : Ending :=
  ⟨⟨[], []⟩, [], .error c⟩

/-- The exit code for input that makes no sense. -/
def invalidInput : Nat := 2

/-- Brings the crate in the working directory up to date. -/
def runSync (c : Circumstances) (request : Settings.Request) (format : OutputFormat) :
    FileSystem × Ending :=
  let fs := c.host.fs
  let refuse (code message : Text) : Ending :=
    endWith invalidInput (showProblem format ⟨"sync", invalidInput, code, message⟩)
  match Settings.ofRequest c.host c.env TestRun.here request with
  | .error (.fault f) => (fs, refuse "config_error" f.message)
  | .error e => (fs, crash (.settings e))
  | .ok s =>
    match Sync.run s c.year fs with
    | (fs, .error (.noManifest root)) =>
      (fs, refuse "precondition_failed" (Sync.Failure.noManifest root).message)
    | (fs, .error e) => (fs, crash (.sync e))
    | (fs, .ok report) =>
      let result : SyncResult := ⟨s.target, s.template, s.force, report⟩
      (fs, endWith result.exitCode (showSync format result))

/-- The code and the exit code of a failed test run. -/
def testFailure : TestRun.Failure → Text × Nat
  | .unknownMode _ => ("unknown_test_mode", 1)
  | .system e => if e.number = Errno.noEntry.number then ("command_not_found", 127)
    else ("os_error", 1)

/-- Runs the tests of the repository around the working directory. -/
def runTestsHere (c : Circumstances) : Ending :=
  match TestRun.discoverRoot c.host.fs TestRun.here c.rootAnswer with
  | .error e => crash (.settings (.links e))
  | .ok root =>
    let d := TestRun.dispatch c.host.fs (root.along TestRun.settingsFile) (some root.toText) c.launch
    match d.result with
    | .ok (_, exitCode) => ⟨⟨d.output, []⟩, d.calls, .ok exitCode⟩
    | .error failure =>
      let (code, exitCode) := testFailure failure
      match shown ("[red]Error (" ++ code ++ "):[/red] " ++ Markup.escape failure.message) with
      | .ok t => ⟨⟨d.output, (onErr t).err⟩, d.calls, .ok exitCode⟩
      | .error fault => ⟨⟨d.output, []⟩, d.calls, .error (.markup fault)⟩

/-- Runs a command. -/
def run (c : Circumstances) (command : Command) : FileSystem × Ending :=
  match command with
  | .sync request format => runSync c request format
  | .version format => (c.host.fs, endWith 0 (showVersion format))
  | .runTests => (c.host.fs, runTestsHere c)

/-- Runs a command line.  One that is not well formed is refused; how that is worded is left open. -/
def runLine (c : Circumstances) (line : List Text) : FileSystem × Ending :=
  match parse c.host.admits line with
  | some command => run c command
  | none => (c.host.fs, ⟨⟨[], []⟩, [], .ok invalidInput⟩)

end CrateSync.Command
