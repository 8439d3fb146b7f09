/-
# Formatted texts in the arguments of an action

A formatted text has fields in braces between its literal parts.  A field holds a term, and behind it
may have an equals sign, the letter of a conversion and a format, which is a formatted text itself.

* `pieces` cuts a formatted text into what has to be checked, in the order of its checking.
-/
import CrateSync.Console.Action.Lexeme

namespace CrateSync.Action

/-- A piece of a formatted text. -/
inductive Piece where
  | literal (t : Text)
  /-- A term, and the line that its field begins in. -/
  | term (line : Nat) (t : Text)
  /-- A mistake; nothing behind it counts. -/
  | fault (m : Mistake)
  deriving DecidableEq, Repr

/-! ## Literal parts -/

/-- What ends a literal part. -/
inductive LiteralEnd where
  /-- The end of the text, or a brace that begins a field or ends the format of one. -/
  | stop
  /-- Two braces, of which the first one belongs to the part. -/
  | doubled
  /-- A closing brace that closes nothing. -/
  | lone
  deriving DecidableEq, Repr

/-- The literal part that a text begins with, what ends it, and what follows.  Only outside of formats
(`outer`) do two braces stand for one.  The braces of an escape that names a character are no fields;
`naming` tells that such an escape is still open. -/
def literalPart (raw outer naming : Bool) : Text → Text × LiteralEnd × Text
  | [] => ([], .stop, [])
  | '\\' :: 'N' :: c :: rest =>
    if raw || naming then
      let (part, ending) := literalPart raw outer naming ('N' :: c :: rest)
      ('\\' :: part, ending)
    else
      let (part, ending) := literalPart raw outer (c = '\x7b') rest
      ('\\' :: 'N' :: c :: part, ending)
  | '\\' :: c :: rest =>
    if raw || naming || c = '\x7b' || c = '\x7d' then
      let (part, ending) := literalPart raw outer naming (c :: rest)
      ('\\' :: part, ending)
    else
      let (part, ending) := literalPart raw outer naming rest
      ('\\' :: c :: part, ending)
  | c :: rest =>
    if naming then
      let (part, ending) := literalPart raw outer (c != '\x7d') rest
      (c :: part, ending)
    else if c = '\x7b' ∨ c = '\x7d' then
      if outer && rest.head? = some c then ([c], .doubled, rest.tail)
      else if outer && c = '\x7d' then ([], .lone, c :: rest)
      else ([], .stop, c :: rest)
    else
      let (part, ending) := literalPart raw outer naming rest
      (c :: part, ending)

/-! ## Fields -/

/-- The term that a field begins with, and what follows it from the mark that ends it on.  The text is
inside of the open `brackets` and of the quotes `quote`, if there are any.  The signs of comparisons
end no term. -/
def fieldTerm (quote : Text) (brackets : List Char) : Text → Except Mistake (Text × Text)
  | [] =>
    match quote, brackets with
    | _ :: _, _ => .error .fieldOpenText
    | [], bracket :: _ => .error (.fieldUnmatched bracket)
    | [], [] => .ok ([], [])
  | c :: rest =>
    let behind (n : Nat) (quote : Text) (brackets : List Char) : Except Mistake (Text × Text) := do
      let (term, after) ← fieldTerm quote brackets (rest.drop n)
      return (c :: rest.take n ++ term, after)
    if c = '\\' then .error .fieldBackslash
    else if !quote.isEmpty then
      if quote.isPrefixOf (c :: rest) then behind (quote.length - 1) [] brackets
      else behind 0 quote brackets
    else if c = '\'' ∨ c = '"' then
      if rest.take 2 = [c, c] then behind 2 [c, c, c] brackets else behind 0 [c] brackets
    else if isOpening c then
      if mostOpened ≤ brackets.length then .error .fieldBrackets else behind 0 [] (c :: brackets)
    else if c = '#' then .error .fieldComment
    else if brackets.isEmpty && "!=<>".toList.contains c && rest.head? = some '=' then
      behind 1 [] brackets
    else if brackets.isEmpty && "!=:\x7d".toList.contains c then .ok ([], c :: rest)
    else
      match opening? c, brackets with
      | none, _ => behind 0 [] brackets
      | some _, [] => .error (.fieldUnmatched c)
      | some opening, last :: brackets =>
        if last = opening then behind 0 [] brackets else .error (.fieldCrossed c last)
  termination_by t => t.length
  decreasing_by simp only [List.length_drop, List.length_cons]; omega

/-- The blanks that may stand around a term. -/
def isTermBlank (c : Char) : Bool :=
  c = ' ' || c = '\t' || c = '\n' || c = '\x0c'

/-- The pieces of a field behind its term: the equals sign, the conversion and the format, which
`format` cuts into pieces.  The second part of the result is what follows the field; none if the
field is not whole. -/
def fieldEnd (format : Text → List Piece × Text) (t : Text) : List Piece × Option Text :=
  let open? : List Piece × Option Text := ([.fault .openField], none)
  let close (pieces : List Piece) : Text → List Piece × Option Text
    | '\x7d' :: rest => (pieces, some rest)
    | _ => (pieces ++ [.fault .openField], none)
  let behindEquals := match t with
    | '=' :: rest => rest.dropWhile fun c => isTermBlank c || c = '\x0b' || c = '\x0d'
    | t => t
  match behindEquals with
  | ['!'] => open?
  | '!' :: c :: rest =>
    if "sra".toList.contains c then
      match rest with
      | ':' :: spec =>
        if spec.isEmpty then open?
        else
          let (pieces, rest) := format spec
          close pieces rest
      | rest => close [] rest
    else ([.fault .badConversion], none)
  | ':' :: spec =>
    if spec.isEmpty then open?
    else
      let (pieces, rest) := format spec
      close pieces rest
  | rest => close [] rest

/-- The most formats that fields may be nested in. -/
def deepestFormat : Nat :=
  1

/-- The pieces of a text inside of `depth` formats, and what follows it; the text begins in a line, and
`n` bounds the number of pieces. -/
def piecesAux (raw : Bool) : Nat → Nat → Nat → Text → List Piece × Text
  | 0, _, _, t => ([], t)
  | n + 1, depth, line, t =>
    let (part, ending, rest) := literalPart raw (depth = 0) false t
    let line := line + part.count '\n'
    let literal := if part.isEmpty then [] else [Piece.literal part]
    match ending with
    | .lone => ([.fault .loneBrace], rest)
    | .doubled =>
      let (pieces, rest) := piecesAux raw n depth line rest
      (literal ++ pieces, rest)
    | .stop =>
      match rest with
      | '\x7b' :: inside =>
        if deepestFormat < depth then (literal ++ [.fault .fieldsTooDeep], rest)
        else
          match fieldTerm [] [] inside with
          | .error m => (literal ++ [.fault m], rest)
          | .ok (_, []) => (literal ++ [.fault .openField], rest)
          | .ok (term, mark :: behind) =>
            let head :=
              if term.all isTermBlank then
                Piece.fault (.emptyField (if mark = '\x7d' then none else some mark))
              else .term line term
            let inField := line + term.count '\n'
            match fieldEnd (piecesAux raw n (depth + 1) inField) (mark :: behind) with
            | (pieces, none) => (literal ++ head :: pieces, rest)
            | (pieces, some after) =>
              let skipped := behind.length - after.length
              let (more, rest) :=
                piecesAux raw n depth (inField + (behind.take skipped).count '\n') after
              (literal ++ head :: pieces ++ more, rest)
      | rest => (literal, rest)

/-- The pieces of a formatted text that begins in a line. -/
def pieces (raw : Bool) (line : Nat) (t : Text) : List Piece :=
  (piecesAux raw (t.length + 1) 0 line t).1

end CrateSync.Action
