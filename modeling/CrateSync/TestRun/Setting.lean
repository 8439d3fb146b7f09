/-
# The test setting of a crate

A small file of assignments says how the tests of a crate are run.  It is read whatever its octets
are: ill-formed parts become replacement characters, and lines may end in any way.  The last
assignment counts, without any blank in its value; no assignment and an empty value both stand for
the standard mode.
-/
import CrateSync.FileSystem.Access
import CrateSync.Text.Blank
import CrateSync.Text.Lines
import CrateSync.TestRun.Mode

namespace CrateSync.TestRun

/-- The start of an assignment, behind blanks. -/
def assignmentStart : Text := "TEST_WITH="

/-- What a line assigns, if it is an assignment. -/
def assigned? (line : Text) : Option Text :=
  Text.after? assignmentStart (Text.dropBlanks line)

/-- The value that counts, where it is the value assigned. -/
def settingOf (value : Text) : Text :=
  match Text.deleteBlanks value with
  | [] => TestMode.standard.name
  | v => v

/-- The setting that a text makes. -/
def settingIn (t : Text) : Text :=
  match ((Text.lines t).filterMap assigned?).getLast? with
  | none => TestMode.standard.name
  | some value => settingOf value

/-- The setting that the content of a file makes. -/
def settingOfFile (content : Octets) : Text :=
  settingIn (Text.unifyBreaks (Utf8.decodeLossy content))

/-- The setting in the file that a path leads to; a missing file makes none. -/
def readSetting (fs : FileSystem) (p : Path) : Except SystemError Text :=
  match fs.isFile p with
  | .error e => .error e
  | .ok false => .ok TestMode.standard.name
  | .ok true => (fs.read p).map settingOfFile

end CrateSync.TestRun
