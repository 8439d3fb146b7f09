/-
# Showing results

How the outcome of a synchronisation and the version are printed: as tables and coloured lines for
people, as a document with headings, or as one line of JSON for programs.
-/
import CrateSync.Command.Arguments
import CrateSync.Console.Json
import CrateSync.Console.Markup
import CrateSync.Console.Table
import CrateSync.Sync.Report

namespace CrateSync.Presentation

/-- What is printed on the two streams of the console. -/
structure Printed where
  out : Text
  err : Text
  deriving DecidableEq, Repr

/-- Printed on the output stream, with a line break behind it. -/
def onOut (t : Text) : Printed :=
  ⟨t ++ ['\n'], []⟩

/-- Printed on the error stream, with a line break behind it. -/
def onErr (t : Text) : Printed :=
  ⟨[], t ++ ['\n']⟩

/-- What printing comes to, unless the marked-up text cannot be shown. -/
abbrev Printing := Except Markup.Fault

/-- What the console shows for a marked-up text. -/
def shown (t : Text) : Printing Text := do
  return Text.joinWith ['\n'] (← Screen.document (← Markup.render t))

/-! ## Errors -/

/-- An error of a command, with the code by which programs know it. -/
structure Problem where
  command : Text
  exitCode : Nat
  code : Text
  message : Text
  deriving DecidableEq, Repr

/-- An error as JSON; fields come in alphabetical order, here and below. -/
def problemJson (p : Problem) : Json :=
  .object
    [("command", .string p.command),
      ("error", .object [("code", .string p.code), ("message", .string p.message)]),
      ("exit_code", .integer p.exitCode),
      ("ok", .boolean false)]

/-- Shows an error. -/
def showProblem (format : OutputFormat) (p : Problem) : Printing Printed :=
  match format with
  | .json => .ok (onOut (problemJson p).write)
  | .markdown =>
    (shown ("# " ++ p.command ++ "\n\n- **status**: error\n- **code**: " ++ p.code
      ++ "\n- **message**: " ++ Markup.escape p.message)).map onOut
  | .table =>
    (shown ("[red]Error (" ++ p.code ++ "):[/red] " ++ Markup.escape p.message)).map onErr

/-! ## Results of a synchronisation -/

/-- A synchronisation that gave a report. -/
structure SyncResult where
  target : Path
  template : Path
  force : Bool
  report : Sync.Report
  deriving DecidableEq, Repr

/-- The exit code: one if something failed. -/
def SyncResult.exitCode (r : SyncResult) : Nat :=
  if r.report.hasFailed then 1 else 0

/-- The result of a command as JSON. -/
def successJson (command : Text) (exitCode : Nat) (data : Json) : Json :=
  .object
    [("command", .string command),
      ("data", data),
      ("exit_code", .integer exitCode),
      ("ok", .boolean (exitCode = 0))]

/-- An action as JSON. -/
def actionJson (a : Sync.Action) : Json :=
  .object
    [("detail", .string a.detail),
      ("outcome", .string a.outcome.name),
      ("path", .string a.path)]

/-- The outcomes in the alphabetical order of their names. -/
def outcomesByName : List Sync.Outcome :=
  [.created, .failed, .overwritten, .skipped, .unchanged, .updated]

/-- A report and what it is about as JSON. -/
def syncJson (r : SyncResult) : Json :=
  .object
    [("actions", .array (r.report.map actionJson)),
      ("force", .boolean r.force),
      ("summary", .object (outcomesByName.map fun o => (o.name, .integer (r.report.count o)))),
      ("target", .string r.target.toText),
      ("template", .string r.template.toText)]

/-- The line of a document for an action. -/
def actionLine (a : Sync.Action) : Text :=
  let remark : Text := if a.detail.isEmpty then [] else " (" ++ Markup.escape a.detail ++ ")"
  "- `" ++ a.path ++ "` | " ++ a.outcome.name ++ remark

/-- A report as a document. -/
def syncDocument (r : SyncResult) : Text :=
  let heading : List Text :=
    ["# Template sync: `" ++ r.target.toText ++ "`", "",
      "- **template**: `" ++ r.template.toText ++ "`"]
  let countLine (o : Sync.Outcome) (n : Nat) : Text :=
    "- **" ++ o.name ++ "**: " ++ Text.ofNat n
  let counts := r.report.summary.map fun (o, n) => countLine o n
  Text.joinWith ['\n'] (heading ++ r.report.map actionLine ++ [] :: counts)

/-- The colour in which an outcome is shown. -/
def outcomeStyle : Sync.Outcome → Text
  | .created => "green"
  | .overwritten => "magenta"
  | .updated => "cyan"
  | .unchanged => "dim"
  | .skipped => "yellow"
  | .failed => "red"

/-- A text in a style, as marked-up text. -/
def styled (style t : Text) : Text :=
  "[" ++ style ++ "]" ++ t ++ "[/" ++ style ++ "]"

/-- The cells of a table for an action. -/
def actionCells (a : Sync.Action) : Printing (List Text) :=
  [a.path, styled (outcomeStyle a.outcome) a.outcome.name, Markup.escape a.detail].mapM
    fun cell => (Markup.render cell).map Markup.Styled.text

/-- A report as a table. -/
def syncTable (r : SyncResult) : Printing Table := do
  let rows ← r.report.mapM actionCells
  let title ← Markup.render ("Template sync: " ++ r.target.toText)
  return { title, headings := ["File", "Result", "Detail"], rows }

/-- The line that sums a report up, as marked-up text. -/
def summaryLine (r : Sync.Report) : Text :=
  let part (o : Sync.Outcome) : Text := styled "bold" (Text.ofNat (r.count o)) ++ " " ++ o.name
  Text.joinWith ", " (([.created, .overwritten, .updated, .skipped] : List Sync.Outcome).map part)

/-- The lines under a table, as marked-up text: the sum, and how many actions failed if any did. -/
def closingLines (r : Sync.Report) : List Text :=
  summaryLine r ::
    if r.hasFailed then
      [styled "red" (Text.ofNat (r.count .failed) ++ " operation(s) failed.")]
    else []

/-- Shows the result of a synchronisation. -/
def showSync (format : OutputFormat) (r : SyncResult) : Printing Printed :=
  match format with
  | .json => .ok (onOut (successJson "sync" r.exitCode (syncJson r)).write)
  | .markdown => (shown (syncDocument r)).map onOut
  | .table => do
    let table ← (← syncTable r).lines
    let closing ← (closingLines r.report).mapM shown
    return onOut (Text.joinWith ['\n'] (table ++ closing))

/-! ## The version -/

/-- The version of the program. -/
def programVersion : Text := "0.1.0"

/-- The version as a table. -/
def versionTable : Table :=
  { title := .plain "version", headings := ["Field", "Value"], rows := [["version", programVersion]] }

/-- Shows the version. -/
def showVersion (format : OutputFormat) : Printing Printed :=
  match format with
  | .json =>
    .ok (onOut (successJson "version" 0 (.object [("version", .string programVersion)])).write)
  | .markdown => (shown ("# version\n\n- **version**: " ++ programVersion)).map onOut
  | .table => versionTable.lines.map fun lines => onOut (Text.joinWith ['\n'] lines)

end CrateSync.Presentation
