/-
# Running the tests

Finding the root of the repository, reading the setting there and starting the command that it
stands for.  How starting the command turns out is given from outside; the result says which command
was started, what is printed and which exit code follows.
-/
import CrateSync.FileSystem.Canonical
import CrateSync.TestRun.Setting

namespace CrateSync.TestRun

/-! ## The root of the repository -/

/-- What the version control program answers when asked for the root: its exit code and what it
prints. -/
structure RootAnswer where
  exitCode : Int
  output : Text
  deriving DecidableEq, Repr

/-- The root of the repository around a starting point, which is the starting point itself if the
version control program is missing, fails or prints nothing. -/
def discoverRoot (fs : FileSystem) (start : Path) (answer : Option RootAnswer) :
    Except FileSystem.LinkError Path := do
  let start ← fs.canonical start
  match answer with
  | none => return start
  | some a =>
    let root := Text.trim a.output
    if a.exitCode ≠ 0 ∨ root = [] then return start else return Path.ofText root

/-- The working directory as a starting point. -/
def here : Path := ⟨.relative, []⟩

/-- The settings file of a repository. -/
def settingsFile : Text := ".ci/ci_tests.env"

/-! ## Starting the command -/

/-- How starting a command turns out. -/
inductive Launch where
  | exited (code : Int)
  | refused (e : SystemError)
  deriving DecidableEq, Repr

/-- A command and the directory in which it is started. -/
structure Call where
  command : List Text
  directory : Option Text
  deriving DecidableEq, Repr

/-- Why no exit code follows. -/
inductive Failure where
  | unknownMode (value : Text)
  | system (e : SystemError)
  deriving DecidableEq, Repr

/-- The wording of a failure. -/
def Failure.message : Failure → Text
  | .unknownMode value => TestMode.unknownMessage value
  | .system e => e.message

/-- What a dispatch did: the commands that it started, what it printed, and the mode with the exit
code or why there is none. -/
structure Dispatch where
  calls : List Call
  output : Text
  result : Except Failure (TestMode × Int)
  deriving Repr

/-- Acts on a mode. -/
def runMode (directory : Option Text) (launch : Launch) (mode : TestMode) : Dispatch :=
  match mode.command? with
  | none =>
    { calls := []
      output := "Skipping tests (TEST_WITH=" ++ mode.name ++ ")\n"
      result := .ok (mode, 0) }
  | some command =>
    { calls := [⟨command, directory⟩]
      output := "▶ Running: " ++ Text.joinWith [' '] command ++ ['\n']
      result :=
        match launch with
        | .exited code => .ok (mode, code)
        | .refused e => .error (.system e) }

/-- Reads the setting and acts on it; a setting that names no mode starts nothing. -/
def dispatch (fs : FileSystem) (settings : Path) (directory : Option Text) (launch : Launch) :
    Dispatch :=
  match readSetting fs settings with
  | .error e => ⟨[], [], .error (.system e)⟩
  | .ok value =>
    match TestMode.ofName? value with
    | none => ⟨[], [], .error (.unknownMode value)⟩
    | some mode => runMode directory launch mode

end CrateSync.TestRun
