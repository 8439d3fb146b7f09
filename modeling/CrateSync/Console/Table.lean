/-
# Tables

Drawing a table with a title and a heading for each column.  A column is as wide as its widest cell;
widths are counted in terminal cells, so that the borders stay straight whatever the texts hold.  In
a table that would be wider than the screen the widest column gives way.
-/
import CrateSync.Console.Screen

namespace CrateSync

/-- A table; each row has a cell for each heading. -/
structure Table where
  title : Markup.Styled
  headings : List Text
  rows : List (List Text)
  deriving Repr

namespace Table

/-! ## Widths -/

/-- The widths of the columns: each as wide as the widest of its cells. -/
def widths (t : Table) : List Nat :=
  t.rows.foldl (fun ws row => ws.zipWith (fun w cell => max w (Screen.naturalWidth cell)) row)
    (t.headings.map Screen.naturalWidth)

/-- The width of a whole table, with a blank on both sides of each cell and the borders. -/
def totalWidth (ws : List Nat) : Nat :=
  ws.foldr (fun w total => w + 3 + total) 1

/-- The largest of some widths. -/
def widest (ws : List Nat) : Nat :=
  ws.foldr max 0

/-- The widths with the widest column narrowed by what the table is wider than the screen. -/
def narrowed (ws : List Nat) : List Nat :=
  let excess := totalWidth ws - Screen.width
  ws.map fun w => if w = widest ws then w - excess else w

/-! ## Drawing -/

/-- The lines that a row of borders is drawn with: the left end, the line along a column, the
crossing between two columns and the right end. -/
structure Border where
  left : Char
  along : Char
  crossing : Char
  right : Char

/-- The border above the headings. -/
def topBorder : Border := ⟨'┏', '━', '┳', '┓'⟩

/-- The border between the headings and the rows. -/
def middleBorder : Border := ⟨'┡', '━', '╇', '┩'⟩

/-- The border below the rows. -/
def bottomBorder : Border := ⟨'└', '─', '┴', '┘'⟩

/-- A border across columns of some widths. -/
def Border.draw (b : Border) (ws : List Nat) : Text :=
  b.left :: Text.joinWith [b.crossing] (ws.map fun w => List.replicate (w + 2) b.along) ++ [b.right]

/-- A line of a row: what its cells have on this line, with a bar in front of, between and behind
them. -/
def drawLine (bar : Char) (ws : List Nat) (cells : List (List Text)) (n : Nat) : Text :=
  let part (w : Nat) (lines : List Text) : Text :=
    ' ' :: (lines[n]?).getD (List.replicate w ' ') ++ [' ']
  bar :: Text.joinWith [bar] (ws.zipWith part cells) ++ [bar]

/-- The lines of a row, as many as its longest cell has. -/
def drawRow (bar : Char) (ws : List Nat) (row : List Text) : List Text :=
  let cells := ws.zipWith Screen.cell row
  (List.range (widest (cells.map List.length))).map (drawLine bar ws cells)

/-- The lines of a table. -/
def lines (t : Table) : Except Markup.Fault (List Text) := do
  let ws := narrowed t.widths
  let title ← Screen.title (totalWidth ws) t.title
  return title ++ topBorder.draw ws :: drawRow '┃' ws t.headings ++ middleBorder.draw ws
    :: t.rows.flatMap (drawRow '│' ws) ++ [bottomBorder.draw ws]

end Table

end CrateSync
