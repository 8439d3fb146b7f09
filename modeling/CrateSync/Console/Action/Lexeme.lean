/-
# The smallest parts of the arguments of an action

Names, reserved words, numbers, quoted texts, operators and brackets.  `lexemes` cuts a text into
them; its last lexeme is the end of the text or, where the text cannot be cut any further, the
mistake that stands there.

Lines count outside of brackets: each has to begin as far to the right as the first one.
-/
import CrateSync.Console.Action.Number
import CrateSync.Console.Action.Quotation
import CrateSync.Text.Identifier
import CrateSync.Text.Printable

namespace CrateSync.Action

/-! ## Brackets -/

/-- Whether a character is an opening bracket. -/
def isOpening (c : Char) : Bool :=
  c = '(' || c = '[' || c = '\x7b'

/-- The bracket that a closing bracket belongs to. -/
def opening? (c : Char) : Option Char :=
  if c = ')' then some '(' else if c = ']' then some '[' else if c = '\x7d' then some '\x7b' else none

/-- The most brackets that may be open at once. -/
def mostOpened : Nat :=
  200

/-! ## Lexemes -/

/-- A smallest part. -/
inductive Lexeme where
  | name (t : Text)
  /-- An operator, a bracket or a reserved word. -/
  | symbol (t : Text)
  | number (imaginary : Bool)
  | quotation (q : Quotation)
  | lineEnd
  /-- The beginning of a line further to the right than the one before. -/
  | indent
  | finish
  /-- Where the text cannot be cut any further. -/
  | broken (h : Halt)
  deriving DecidableEq, Repr

/-- A lexeme with its number, the brackets that are open behind it, the last one first, each with its
line, and the line of the lexeme itself.  `last` tells that the end of the text had to be seen to find
the end of the lexeme. -/
structure Item where
  lexeme : Lexeme
  place : Nat
  opened : List (Char × Nat)
  line : Nat
  last : Bool
  deriving DecidableEq, Repr

/-! ## Names, operators and brackets -/

/-- The words that are no names. -/
def reservedWords : List Text :=
  ["False", "None", "True", "and", "as", "assert", "async", "await", "break", "class", "continue",
    "def", "del", "elif", "else", "except", "finally", "for", "from", "global", "if", "import",
    "in", "is", "lambda", "nonlocal", "not", "or", "pass", "raise", "return", "try", "while",
    "with", "yield"].map String.toList

/-- A word as a name or a reserved word; or the first character of it that no name can have. -/
def wordLexeme (t : Text) : Except Mistake Lexeme :=
  let wrong := match t with
    | [] => none
    | c :: rest => if Text.isNameStart c then rest.find? (!Text.isNamePart ·) else some c
  match wrong with
  | some c => .error (if Text.isPrintable c then .badCharacter c else .hiddenCharacter c)
  | none => .ok (if reservedWords.contains t then .symbol t else .name t)

/-- The operators of several characters, the longer ones first. -/
def longOperators : List Text :=
  ["**=", "//=", ">>=", "<<=", "...", "!=", "%=", "&=", "**", "*=", "+=", "-=", "->", "//", "/=",
    ":=", "<<", "<=", "<>", "==", ">=", ">>", "@=", "^=", "|="].map String.toList

/-- The operator that a text begins with, and what follows it. -/
def readOperator (t : Text) : Text × Text :=
  match longOperators.find? (·.isPrefixOf t) with
  | some operator => (operator, t.drop operator.length)
  | none => (t.take 1, t.drop 1)

/-- The open brackets, the last one first, each with its line, behind an operator in a line. -/
def behindOperator (opened : List (Char × Nat)) (line : Nat) (c : Char) :
    Except Mistake (List (Char × Nat)) :=
  if isOpening c then
    if mostOpened ≤ opened.length then .error .tooDeep else .ok ((c, line) :: opened)
  else
    match opening? c, opened with
    | none, _ =>
      if c.toNat < 0x20 ∨ c.toNat = 0x7F then .error (.hiddenCharacter c) else .ok opened
    | some _, [] => .error (.neverOpened c)
    | some opening, (last, lastLine) :: rest =>
      if last = opening then .ok rest
      else .error (.crossed c last (if lastLine = line then none else some lastLine))

/-! ## The beginnings of lines -/

/-- How far to the right a line begins, with tab stops after eight columns and with tabs that count as
one blank. -/
structure Indent where
  wide : Nat
  narrow : Nat
  deriving DecidableEq, Repr

/-- The blanks that a line begins with, as an indent, and what follows them.  A line that is continued
in the next one adds to the blanks only if it had none. -/
def leadingBlanks (i : Indent) (kept : Option Indent) : Text → Indent × Text
  | ' ' :: rest => leadingBlanks ⟨i.wide + 1, i.narrow + 1⟩ kept rest
  | '\t' :: rest => leadingBlanks ⟨(i.wide / 8 + 1) * 8, i.narrow + 1⟩ kept rest
  | '\x0c' :: rest => leadingBlanks ⟨0, 0⟩ kept rest
  | '\\' :: '\n' :: rest =>
    leadingBlanks i (kept <|> if i.wide = 0 then none else some ⟨i.wide, i.wide⟩) rest
  | rest => (kept.getD i, rest)

/-- The indents in force in a line that begins with one, the last one first, and whether it is a new
one; none if the indent fits with no other one. -/
def indentsWith (i : Indent) : List Indent → Option (List Indent × Bool)
  | [] => some ([], false)
  | last :: before =>
    if last.wide < i.wide then
      if last.narrow < i.narrow then some (i :: last :: before, true) else none
    else
      let rest := (last :: before).dropWhile (i.wide < ·.wide)
      if rest.head? = some i then some (rest, false) else none

/-! ## Cutting a text -/

/-- How far the cutting of a text has come: the number of lexemes so far, the open brackets, the line,
and the indents in force. -/
structure Cutting where
  place : Nat
  opened : List (Char × Nat)
  line : Nat
  indents : List Indent

/-- A lexeme where the cutting has come to. -/
def Cutting.item (k : Cutting) (lexeme : Lexeme) (last : Bool) : Item :=
  ⟨lexeme, k.place, k.opened, k.line, last⟩

/-- The number of line breaks in a text. -/
def breaks (t : Text) : Nat :=
  t.count '\n'

/-- The lexemes at the end of a text. -/
def endOfText (k : Cutting) : List Item :=
  match k.opened with
  | [] => [k.item .finish true]
  | (c, _) :: _ => [k.item (.broken (.plain (.neverClosed c))) true]

/-- At most `n` lexemes; `fresh` tells that a line begins here.  Line breaks count only outside of
brackets, and in lines that are not empty. -/
def lexemesAux : Nat → Bool → Cutting → Text → List Item
  | 0, _, _, _ => []
  | n + 1, true, k, t =>
    if k.opened.isEmpty then
      let (i, rest) := leadingBlanks ⟨0, 0⟩ none t
      let k := { k with line := k.line + breaks (t.take (t.length - rest.length)) }
      match rest with
      | '#' :: _ =>
        match rest.dropWhile (· != '\n') with
        | [] => endOfText k
        | rest => lexemesAux n true { k with line := k.line + 1 } rest.tail
      | '\n' :: rest => lexemesAux n true { k with line := k.line + 1 } rest
      | '\\' :: _ => [k.item (.broken (.plain .afterBackslash)) false]
      | rest =>
        match indentsWith i k.indents with
        | none => [k.item .finish true]
        | some (indents, isNew) =>
          let k := { k with indents }
          if isNew then k.item .indent false :: lexemesAux n false { k with place := k.place + 1 } rest
          else lexemesAux n false k rest
    else lexemesAux n false k t
  | n + 1, false, k, t =>
    let next := { k with place := k.place + 1 }
    match t with
    | [] => endOfText k
    | '#' :: rest => lexemesAux n false k (rest.dropWhile (· != '\n'))
    | '\n' :: rest =>
      if k.opened.isEmpty then
        k.item .lineEnd false :: lexemesAux n true { next with line := k.line + 1 } rest
      else lexemesAux n false { k with line := k.line + 1 } rest
    | '\\' :: '\n' :: rest => lexemesAux n false { k with line := k.line + 1 } rest
    | '\\' :: _ => [k.item (.broken (.plain .afterBackslash)) false]
    | c :: rest =>
      let broken (m : Mistake) := [k.item (.broken (.final m)) false]
      let word := t.takeWhile isWide
      let after := t.drop word.length
      let quote := after.head?.getD ' '
      if c = ' ' ∨ c = '\t' ∨ c = '\x0c' then lexemesAux n false k rest
      else if (quote = '\'' ∨ quote = '"') && isQuotationMark word then
        match readQuotation word quote after with
        | .ok (q, rest) =>
          k.item (.quotation q) (rest.isEmpty && after.length = 2)
            :: lexemesAux n false { next with line := k.line + breaks q.content } rest
        | .error (triple, content) => broken (.openText triple (k.line + breaks content))
      else if c.isDigit || (c = '.' && rest.head?.any Char.isDigit) then
        match readNumber t with
        | .ok (imaginary, rest) => k.item (.number imaginary) rest.isEmpty :: lexemesAux n false next rest
        | .error m => broken m
      else if isWide c then
        match wordLexeme word with
        | .ok lexeme => k.item lexeme after.isEmpty :: lexemesAux n false next after
        | .error m => broken m
      else
        let (operator, rest) := readOperator t
        match behindOperator k.opened k.line c with
        | .ok opened =>
          { k with opened }.item (.symbol operator) rest.isEmpty
            :: lexemesAux n false { next with opened } rest
        | .error m => broken m

/-- The lexemes of a text that begins in a line. -/
def lexemes (line : Nat) (t : Text) : List Item :=
  lexemesAux (2 * t.length + 2) true ⟨0, [], line, [⟨0, 0⟩]⟩ t

end CrateSync.Action
