/-
# TOML documents

Reading a whole document: containers, statements and the statements in order.  `parse` is the
reader of documents; its errors carry the line and column where reading stopped.  Arrays and inline
tables may be nested to a certain depth.  The bounds on the steps of the recursion are computed from
the length of the text, and reading a part always takes at least one character, so none of these is
ever met.
-/
import CrateSync.Text.Lines
import CrateSync.Toml.Scalar
import CrateSync.Toml.Draft

namespace CrateSync.Toml

/-! ## Values -/

/-- The depth of the value of a statement: a document, a statement and an entry are around it. -/
def topDepth : Nat :=
  4

/-- The greatest depth. -/
def deepest : Nat :=
  990

/-- Turns a cause into a failure at a place. -/
def failAt {α : Type} (rest : Text) : Except Cause α → Result α
  | .ok a => .ok a
  | .error cause => stop cause rest

mutual

/-- Reads a value at a depth, by at most `n` steps in all.  A value in an array stands two deeper than
the array, and one in an inline table three deeper than the table; the array and the table themselves
need room below them for their blanks and their keys. -/
def readValueAux : Nat → Nat → Text → Result (Value × Text)
  | 0, _, t => stop .badValue t
  | n + 1, depth, t =>
    match t with
    | '[' :: rest =>
      if deepest < depth + 3 then .error (.excess .depth)
      else do
        let (items, rest) ← readItemsAux n (depth + 2) rest
        return (.array items, rest)
    | '\x7b' :: rest =>
      if deepest < depth + 5 then .error (.excess .depth)
      else
        match skipSpaces rest with
        | '\x7d' :: rest => .ok (.table [], rest)
        | rest => do
          let (entries, rest) ← readEntriesAux n (depth + 3) [] [] rest
          return (.table entries, rest)
    | t =>
      match readString? t with
      | some result => result.map fun (content, rest) => (.string content, rest)
      | none => readScalar t

/-- Reads the items of an array, which stand at a depth, from behind its opening bracket or a comma. -/
def readItemsAux : Nat → Nat → Text → Result (List Value × Text)
  | 0, _, t => stop .badValue t
  | n + 1, depth, t => do
    match ← skipLoose t with
    | ']' :: rest => return ([], rest)
    | start =>
      let (item, rest) ← readValueAux n depth start
      match ← skipLoose rest with
      | ']' :: rest => return ([item], rest)
      | ',' :: rest =>
        let (items, rest) ← readItemsAux n depth rest
        return (item :: items, rest)
      | rest => stop .unclosedArray rest

/-- Reads the entries of an inline table, whose values stand at a depth, from the start of a key, into
the entries before them. -/
def readEntriesAux : Nat → Nat → Table → List Key → Text → Result (Table × Text)
  | 0, _, _, _, t => stop .badKeyStart t
  | n + 1, depth, entries, closed, t => do
    let (key, rest) ← readKeyEquals t
    let (value, rest) ← readValueAux n depth rest
    let entries ← failAt rest (assignInline key value closed entries)
    match skipSpaces rest with
    | '\x7d' :: rest => return (entries, rest)
    | ',' :: rest =>
      let closed := if value.isContainer then key :: closed else closed
      readEntriesAux n depth entries closed (skipSpaces rest)
    | rest => stop .unclosedInlineTable rest

end

/-- Reads the value of a statement. -/
def readValue (t : Text) : Result (Value × Text) :=
  readValueAux (2 * t.length + 2) topDepth t

/-! ## Statements -/

/-- Reads a key and its value into the current table. -/
def readEntry (d : Draft) (t : Text) : Result (Draft × Text) := do
  let (key, rest) ← readKeyEquals t
  let (value, rest) ← readValue rest
  let d ← failAt rest (d.assign key value)
  return (d, rest)

/-- Reads a table header from behind its bracket. -/
def readTableHeader (d : Draft) (t : Text) : Result (Draft × Text) := do
  let (key, rest) ← readKey (skipSpaces t)
  let d ← failAt rest (d.settle.openTable key)
  match rest with
  | ']' :: rest => return (d, rest)
  | _ => stop .unclosedTableHeader rest

/-- Reads a header of an array of tables from behind its two brackets. -/
def readArrayHeader (d : Draft) (t : Text) : Result (Draft × Text) := do
  let (key, rest) ← readKey (skipSpaces t)
  let d ← failAt rest (d.settle.extendArray key)
  match rest with
  | ']' :: ']' :: rest => return (d, rest)
  | _ => stop .unclosedArrayHeader rest

/-- Whether an entry may begin with a character. -/
def isKeyStart (c : Char) : Bool :=
  isBareKeyChar c || c = '"' || c = '\''

/-- Reads one statement; a comment is left for later. -/
def readStatement (d : Draft) : Text → Result (Draft × Text)
  | '[' :: '[' :: rest => readArrayHeader d rest
  | '[' :: rest => readTableHeader d rest
  | '#' :: rest => .ok (d, '#' :: rest)
  | t =>
    if (t.head?.map isKeyStart).getD false then readEntry d t else stop .badStatement t

/-- Reads at most `n` lines of statements. -/
def readStatementsAux : Nat → Draft → Text → Result Draft
  | 0, d, _ => .ok d
  | n + 1, d, t =>
    match skipSpaces t with
    | [] => .ok d
    | '\n' :: rest => readStatementsAux n d rest
    | start => do
      let (d, rest) ← readStatement d start
      match ← skipComment (skipSpaces rest) with
      | [] => .ok d
      | '\n' :: rest => readStatementsAux n d rest
      | rest => stop .unfinishedLine rest

/-! ## Documents -/

/-- Reads a document whose line breaks are line feeds alone. -/
def readDocument (t : Text) : Result Table :=
  (readStatementsAux (t.length + 1) .empty t).map Draft.root

/-- Reads a document.  Lines may end in a line feed or in the pair of carriage return and line
feed, which counts as one character. -/
def parse (t : Text) : Except DocumentError Table :=
  let document := Text.joinPairs t
  match readDocument document with
  | .ok root => .ok root
  | .error (.malformed cause rest) => .error (.malformed cause (.before document rest))
  | .error (.excess e) => .error (.excess e)

end CrateSync.Toml
