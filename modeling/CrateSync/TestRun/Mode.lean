/-
# How tests are run

The ways of running the tests of a crate and the command that each stands for.
-/
import CrateSync.Text.Basic

namespace CrateSync

/-- A way of running the tests. -/
inductive TestMode where
  | miri
  | cargo
  | nextest
  | nothing
  deriving DecidableEq, Repr

namespace TestMode

/-- The name of a mode, as the settings file has it. -/
def name : TestMode → Text
  | miri => "miri"
  | cargo => "cargo"
  | nextest => "nextest"
  | nothing => "nothing"

/-- All modes. -/
def all : List TestMode :=
  [miri, cargo, nextest, nothing]

/-- The mode with a name. -/
def ofName? (t : Text) : Option TestMode :=
  all.find? fun mode => mode.name == t

@[simp] theorem ofName?_name (mode : TestMode) : ofName? mode.name = some mode := by
  cases mode <;> decide

theorem name_of_ofName? {t : Text} {mode : TestMode} (h : ofName? t = some mode) :
    mode.name = t := by
  simpa using List.find?_some h

/-- The mode if none is set. -/
def standard : TestMode := cargo

/-- The words of the command that runs the tests, unless they are not run at all. -/
def command? : TestMode → Option (List Text)
  | miri => some ["cargo", "miri", "test"]
  | cargo => some ["cargo", "test"]
  | nextest => some ["cargo", "nextest", "run"]
  | nothing => none

/-- What is said of a value that names no mode. -/
def unknownMessage (value : Text) : Text :=
  "Unknown TEST_WITH='" ++ value ++ "' (expected: "
    ++ Text.joinWith "|" (all.map name) ++ ")"

end TestMode

end CrateSync
