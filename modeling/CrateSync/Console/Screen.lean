/-
# Showing marked-up text

Laying a text without its tags out on a screen of some width: as a document, as a title in the middle
of a width, or as the lines of a table cell.  The styles themselves are not shown, but those of the
characters that are left on the screen have to be styles that can be made out, and a line is drawn in
pieces where they change.
-/
import CrateSync.Console.Highlight
import CrateSync.Console.Markup
import CrateSync.Console.Wrap
import CrateSync.Text.Lines

namespace CrateSync.Screen

/-- The number of cells of a line. -/
def width : Nat := 1000

/-! ## Lines and where they come from -/

/-- A line of a text and the number of characters of the text before it. -/
structure Line where
  start : Nat
  text : Text
  deriving DecidableEq, Repr

/-- The positions of a line in its text. -/
def Line.extent (l : Line) : Extent :=
  ⟨l.start, l.start + l.text.length⟩

/-- A line with another text, which is a beginning of the one it had. -/
def Line.mapText (f : Text → Text) (l : Line) : Line :=
  ⟨l.start, f l.text⟩

/-- Pieces of a text that follow each other, from a position on. -/
def linesFrom (start : Nat) : List Text → List Line
  | [] => []
  | piece :: rest => ⟨start, piece⟩ :: linesFrom (start + piece.length) rest

/-- The pieces of paragraphs from a position on; between paragraphs stands one character. -/
def paragraphLines (width start : Nat) : List Text → List Line
  | [] => []
  | paragraph :: rest =>
    linesFrom start (Wrap.pieces .fold width paragraph)
      ++ paragraphLines width (start + paragraph.length + 1) rest

/-- A text laid out on a screen: the number of its characters, and its lines. -/
structure Layout where
  length : Nat
  lines : List Line
  deriving DecidableEq, Repr

/-- A text laid out in some width, with each line shortened at its end. -/
def layOut (width : Nat) (shorten : Text → Text) (t : Text) : Layout :=
  ⟨t.length, (paragraphLines width 0 (Text.splitOn '\n' t)).map (Line.mapText shorten)⟩

/-- Whether a line shows a part of a range.  Where the whole text is one line, empty ranges count as
well, unless they lie behind a place where the line was shortened. -/
def Layout.shows (f : Layout) (l : Line) (e : Extent) : Bool :=
  match f.lines with
  | [_] => l.text.length = f.length || e.start < l.text.length
  | _ => !(e.meet l.extent).isEmpty

/-! ## The styles that are left -/

/-- Makes out a style; what names no style is not shown in any. -/
def checkStyle (s : Markup.Span) : Except Markup.Fault Unit :=
  match Style.named? s.style with
  | .ok _ => .ok ()
  | .error f => .error (.style f)

/-- Makes out the styles that are left on the screen. -/
def checkStyles (f : Layout) (spans : List Markup.Span) : Except Markup.Fault Unit :=
  (spans.filter fun s => f.lines.any fun l => f.shows l s.toExtent).forM checkStyle

/-! ## Drawing lines -/

/-- A text behind some characters, cut at positions. -/
def cutAt (cuts : List Nat) (before : Nat) : Text → List Text
  | [] => []
  | c :: rest =>
    let pieces := cutAt cuts (before + 1) rest
    if cuts.contains (before + 1) then [c] :: pieces else Text.consFirst c pieces

/-- **Cutting a text loses no character.** -/
theorem flatten_cutAt (cuts : List Nat) (before : Nat) (t : Text) :
    (cutAt cuts before t).flatten = t := by
  have flatten_consFirst (c : Char) (ts : List Text) :
      (Text.consFirst c ts).flatten = c :: ts.flatten := by
    cases ts <;> rfl
  induction t generalizing before with
  | nil => rfl
  | cons c t ih =>
    rw [cutAt]
    split
    · simp [ih]
    · rw [flatten_consFirst, ih]

/-- As much of the pieces of a line as there is room for.  Each piece takes as many cells as it does by
itself, and the first one that leaves no room behind it is the last. -/
def fitting : Nat → List Text → Text
  | _, [] => []
  | room, piece :: rest =>
    if Text.cells piece < room then piece ++ fitting (room - Text.cells piece) rest
    else Wrap.cut .fold room piece

/-- The number of cells that pieces take, each by itself. -/
def cellsOfPieces (pieces : List Text) : Nat :=
  pieces.foldr (fun piece total => Text.cells piece + total) 0

/-- The pieces of a line put together, as much as there is room for on the screen. -/
def crop (pieces : List Text) : Text :=
  if cellsOfPieces pieces ≤ width then pieces.flatten else fitting width pieces

/-- Where a line is cut between the ranges that it shows, counted from its start. -/
def Layout.cuts (f : Layout) (extents : List Extent) (l : Line) : List Nat :=
  (extents.filter (f.shows l)).flatMap fun e =>
    let shown := e.meet l.extent
    [shown.start - l.start, shown.stop - l.start]

/-- A line with blanks on both sides.  What is shown in different ways is drawn piece by piece. -/
def Layout.draw (f : Layout) (extents : List Extent) (left right : Nat) (l : Line) : Text :=
  let cuts := (f.cuts extents l).map (· + left)
  crop (cutAt cuts 0 (List.replicate left ' ' ++ l.text ++ List.replicate right ' '))

/-! ## Ways of showing -/

/-- What is picked out of a document; in a text whose parts take as many cells as the whole this makes
no difference. -/
def highlights (t : Text) : List Extent :=
  if Text.isAdditive t then [] else Highlight.extents t

/-- The lines of a document. -/
def document (s : Markup.Styled) : Except Markup.Fault (List Text) := do
  let shorten (line : Text) : Text := Wrap.cut .fold width (Wrap.trimBeyond width line)
  let layout := layOut width shorten s.text
  checkStyles layout s.spans
  let extents := s.spans.map Markup.Span.toExtent ++ highlights s.text
  return layout.lines.map (layout.draw extents 0 0)

/-- The numbers of blanks that put a line in the middle of a width; an odd blank goes to the right. -/
def margins (width : Nat) (line : Text) : Nat × Nat :=
  let left := (width - Text.cells line) / 2
  (left, width - Text.cells (List.replicate left ' ' ++ line))

/-- The lines of a title, in the middle of a width and without blanks at their ends. -/
def title (width : Nat) (s : Markup.Styled) : Except Markup.Fault (List Text) := do
  let shorten (line : Text) : Text := Wrap.cut .fold width (Text.dropRightWhile Text.isBlank line)
  let layout := layOut width shorten s.text
  checkStyles layout s.spans
  let extents := s.spans.map Markup.Span.toExtent
  return layout.lines.map fun l =>
    let (left, right) := margins width l.text
    layout.draw extents left right l

/-- A line filled up with blanks to a width.  Blanks are counted as they are drawn: a joiner at the
end of the line swallows one. -/
def fill (width : Nat) (line : Text) : Text :=
  let filled := line ++ List.replicate (width - Text.cells line) ' '
  filled ++ List.replicate (width - Text.cells filled) ' '

/-- The lines of a table cell; words that do not fit are cut. -/
def cell (width : Nat) (t : Text) : List Text :=
  (Text.splitOn '\n' t).flatMap fun paragraph =>
    (Wrap.pieces .ellipsis width paragraph).map fun line =>
      fill width (Wrap.cut .ellipsis width (Wrap.trimBeyond width line))

/-- The width that a table cell needs to be shown on unbroken lines. -/
def naturalWidth (t : Text) : Nat :=
  (Text.lines t).foldr (fun line widest =>
    max (Text.cells (Text.dropRightWhile Text.isLineBreak line)) widest) 0

end CrateSync.Screen
