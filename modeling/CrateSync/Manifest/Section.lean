/-
# The package section of a manifest

Finding, line by line and without reading the whole document, the `[package]` section of a
manifest and the lines in it that set a given key.  The lines before the header, the header, the
lines of the section and the lines after it put together are all the lines.
-/
import CrateSync.Text.Blank
import CrateSync.Text.Lines

namespace CrateSync.Manifest

/-! ## Recognising lines -/

/-- Whether a line looks like a table header: its first character that is not blank is an opening
bracket. -/
def isTableHeader (line : Text) : Bool :=
  (Text.dropBlanks line).head? == some '['

/-- The line without carriage returns and line feeds at its end. -/
def withoutEnding (line : Text) : Text :=
  Text.dropRightWhile (fun c => c = '\r' || c = '\n') line

/-- What follows `part` and the blanks around it. -/
def afterPart? (part line : Text) : Option Text :=
  (Text.after? part (Text.dropBlanks line)).map Text.dropBlanks

/-- Whether a line is the header of the package table, with a comment behind it or without. -/
def isPackageHeader (line : Text) : Bool :=
  let rest := do
    let rest ← afterPart? "[" (withoutEnding line)
    let rest ← afterPart? "package" rest
    afterPart? "]" rest
  match rest with
  | none => false
  | some [] => true
  | some (c :: _) => c = '#'

/-- Whether a line sets a key, or a part of it by a dotted key. -/
def setsKey (line key : Text) : Bool :=
  match afterPart? key line with
  | some (c :: _) => c = '.' || c = '='
  | _ => false

/-! ## The section -/

/-- The lines of a manifest around its package header. -/
structure Layout where
  before : List Text
  header : Text
  body : List Text
  after : List Text
  deriving DecidableEq, Repr

/-- Cuts lines at the first package header and at the first table header behind it. -/
def Layout.ofLines? (lines : List Text) : Option Layout :=
  match lines.dropWhile fun line => !isPackageHeader line with
  | [] => none
  | header :: rest => some
    { before := lines.takeWhile fun line => !isPackageHeader line
      header
      body := rest.takeWhile fun line => !isTableHeader line
      after := rest.dropWhile fun line => !isTableHeader line }

/-- The lines in order. -/
def Layout.lines (l : Layout) : List Text :=
  l.before ++ l.header :: (l.body ++ l.after)

/-- **Cutting loses no line.** -/
theorem Layout.lines_ofLines {lines : List Text} {l : Layout} (h : ofLines? lines = some l) :
    l.lines = lines := by
  unfold ofLines? at h
  split at h
  · exact absurd h (by simp)
  · rename_i header rest heq
    obtain rfl := Option.some.inj h
    simp only [Layout.lines, List.takeWhile_append_dropWhile]
    rw [← heq, List.takeWhile_append_dropWhile]

end CrateSync.Manifest
