/-
# Breaking texts into lines

Filling lines of some width with the words of a text.  A word keeps the blanks behind it, which need
not fit.  A word that is wider than a line begins a new one, and is then either broken over several
lines or left to be cut.  Widths are counted in terminal cells.

* `pieces` breaks a text, word by word;
* `trimBeyond` and `cut` make a line fit whose blanks or whose single word are too wide.
-/
import CrateSync.Text.Blank
import CrateSync.Text.Cells

namespace CrateSync.Wrap

/-! ## Words -/

/-- Whether a text begins with a blank. -/
def beginsBlank (t : Text) : Bool :=
  t.head?.any Text.isBlank

/-- Puts a character in front of words: a blank in front of a word stands alone until a word ends
there. -/
def consWord (c : Char) : List Text → List Text
  | [] => [[c]]
  | word :: rest =>
    if Text.isBlank c && !(beginsBlank word) then [c] :: word :: rest else (c :: word) :: rest

/-- The words of a text, each with the blanks behind it; blanks at the start stand alone. -/
def wordsFrom (t : Text) : List Text :=
  t.foldr consWord []

/-- The words of a text, each with the blanks behind it and the first one also with those at the
start. -/
def words (t : Text) : List Text :=
  match wordsFrom t with
  | blanks :: word :: rest =>
    if beginsBlank blanks then (blanks ++ word) :: rest else blanks :: word :: rest
  | ts => ts

theorem flatten_consWord (c : Char) (ts : List Text) :
    (consWord c ts).flatten = c :: ts.flatten := by
  fun_cases consWord c ts <;> simp

theorem flatten_wordsFrom (t : Text) : (wordsFrom t).flatten = t := by
  induction t with
  | nil => rfl
  | cons c t ih =>
    show (consWord c (wordsFrom t)).flatten = c :: t
    rw [flatten_consWord, ih]

/-- The words of a text hold all its characters. -/
theorem flatten_words (t : Text) : (words t).flatten = t := by
  unfold words
  split
  · rename_i blanks word rest h
    rw [← flatten_wordsFrom t, h]
    split <;> simp
  · exact flatten_wordsFrom t

/-! ## Breaking a word -/

/-- The lines of clusters, each as full as the width allows, behind a line that has been begun. -/
def chopBehind (width : Nat) (line : Text) (used : Nat) : List Text.Cluster → List Text
  | [] => [line]
  | k :: rest =>
    if width < used + k.cells then line :: chopBehind width k.text k.cells rest
    else chopBehind width (line ++ k.text) (used + k.cells) rest

/-- The lines of a word, each as full as the width allows. -/
def chop (width : Nat) (word : Text) : List Text :=
  chopBehind width [] 0 (Text.clusters word)

/-! ## Filling lines -/

/-- What becomes of a word that is wider than a line. -/
inductive Overflow where
  /-- It is broken over several lines. -/
  | fold
  /-- It is left to be cut, with an ellipsis at its end. -/
  | ellipsis
  deriving DecidableEq, Repr

/-- Lines being filled: those that are finished, the one being filled and the cells used of it. -/
structure Filling where
  finished : List Text
  line : Text
  used : Nat
  deriving DecidableEq, Repr

/-- No lines yet. -/
def Filling.empty : Filling :=
  ⟨[], [], 0⟩

/-- All lines. -/
def Filling.lines (f : Filling) : List Text :=
  f.finished ++ [f.line]

/-- The lines that are finished if a new line is begun; nothing is finished by a line without
characters. -/
def Filling.finish (f : Filling) : List Text :=
  if f.line.isEmpty then f.finished else f.finished ++ [f.line]

/-- Begins a new line with a text. -/
def Filling.begin (f : Filling) (t : Text) : Filling :=
  ⟨f.finish, t, Text.cells t⟩

/-- Puts texts on lines of their own. -/
def Filling.beginAll (f : Filling) (ts : List Text) : Filling :=
  ts.foldl Filling.begin f

/-- Puts a word on the line if it fits there apart from the blanks behind it, else on a new one. -/
def Filling.place (o : Overflow) (width : Nat) (f : Filling) (word : Text) : Filling :=
  let size := Text.cells (Text.dropRightWhile Text.isBlank word)
  if f.used + size ≤ width then ⟨f.finished, f.line ++ word, f.used + Text.cells word⟩
  else if size ≤ width then f.begin word
  else
    match o with
    | .fold => f.beginAll (chop width word)
    | .ellipsis => f.begin word

/-- The lines into which a text is broken. -/
def pieces (o : Overflow) (width : Nat) (t : Text) : List Text :=
  ((words t).foldl (Filling.place o width) .empty).lines

/-! ## Making lines fit -/

/-- Takes blanks off the end of a line, as many as it has characters beyond a number. -/
def trimBeyond (length : Nat) (line : Text) : Text :=
  let blanks := (line.reverse.takeWhile Text.isBlank).length
  line.take (line.length - min blanks (line.length - length))

/-- The clusters that fit a width; a cluster that would fit only in part leaves a blank. -/
def cutClusters : Nat → List Text.Cluster → Text
  | _, [] => []
  | width, k :: rest =>
    if k.cells ≤ width then k.text ++ cutClusters (width - k.cells) rest
    else if width = 0 then [] else [' ']

/-- A line cut to a width, if it is wider. -/
def cut (o : Overflow) (width : Nat) (line : Text) : Text :=
  if Text.cells line ≤ width then line
  else
    match o with
    | .fold => cutClusters width (Text.clusters line)
    | .ellipsis => cutClusters (width - 1) (Text.clusters line) ++ ['…']

end CrateSync.Wrap
