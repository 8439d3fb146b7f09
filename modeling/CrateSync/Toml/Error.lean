/-
# Why a text is no TOML document

The causes for which reading a document stops, and the place where it stopped.  While reading, the
place is the text that was still to come; the reader of the whole document turns it into a line
and a column, or into the end of the document.
-/
import CrateSync.Text.Quoted
import CrateSync.Toml.Value

namespace CrateSync.Toml

/-- Why reading stopped. -/
inductive Cause where
  /-- A line begins with something that begins no statement. -/
  | badStatement
  /-- Something follows a complete statement on its line. -/
  | unfinishedLine
  /-- A character that may not stand in a comment or a literal string. -/
  | badCharacter (c : Char)
  /-- A character that may not stand in a basic string. -/
  | illegalCharacter (c : Char)
  /-- A table header for a table that has its own header already or cannot be extended. -/
  | declaredTwice (key : Key)
  /-- A key that leads through or to a value that is no open table. -/
  | overwritesValue
  /-- A key below an array or inline table, which are complete where they are written. -/
  | closedNamespace (key : Key)
  /-- A dotted key that leads through a table with a header of its own. -/
  | redefinesNamespace (key : Key)
  | unclosedTableHeader
  | unclosedArrayHeader
  | missingEquals
  | badKeyStart
  | badDate
  | badValue
  | unclosedArray
  | unclosedInlineTable
  /-- A name given twice in one inline table. -/
  | duplicateName (name : Text)
  | unterminatedString
  /-- A backslash that begins no escape. -/
  | badEscape
  | badHexDigits
  /-- A numeric escape for a number that is no character. -/
  | noScalarValue
  /-- The end of a literal string is missing. -/
  | missingDelimiter (delimiter : Text)
  deriving DecidableEq, Repr

/-- The wording of a cause. -/
def Cause.message : Cause → Text
  | .badStatement => "Invalid statement"
  | .unfinishedLine => "Expected newline or end of document after a statement"
  | .badCharacter c => "Found invalid character " ++ Text.quoted [c]
  | .illegalCharacter c => "Illegal character " ++ Text.quoted [c]
  | .declaredTwice key => "Cannot declare " ++ Text.quotedTuple key ++ " twice"
  | .overwritesValue => "Cannot overwrite a value"
  | .closedNamespace key => "Cannot mutate immutable namespace " ++ Text.quotedTuple key
  | .redefinesNamespace key => "Cannot redefine namespace " ++ Text.quotedTuple key
  | .unclosedTableHeader => "Expected ']' at the end of a table declaration"
  | .unclosedArrayHeader => "Expected ']]' at the end of an array declaration"
  | .missingEquals => "Expected '=' after a key in a key/value pair"
  | .badKeyStart => "Invalid initial character for a key part"
  | .badDate => "Invalid date or datetime"
  | .badValue => "Invalid value"
  | .unclosedArray => "Unclosed array"
  | .unclosedInlineTable => "Unclosed inline table"
  | .duplicateName name => "Duplicate inline table key " ++ Text.quoted name
  | .unterminatedString => "Unterminated string"
  | .badEscape => "Unescaped '\\' in a string"
  | .badHexDigits => "Invalid hex value"
  | .noScalarValue => "Escaped character is not a Unicode scalar value"
  | .missingDelimiter delimiter => "Expected " ++ Text.quoted delimiter

/-- What goes beyond the bounds of reading, in whatever form it is written. -/
inductive Excess where
  /-- A decimal integer with more digits than are accepted. -/
  | digits (count : Nat)
  /-- Arrays and inline tables one inside of the other. -/
  | depth
  deriving DecidableEq, Repr

/-- The largest number of digits that a decimal integer may have. -/
def maxIntegerDigits : Nat := 4300

/-- The wording of an excess. -/
def Excess.message : Excess → Text
  | .digits count =>
    "Exceeds the limit (" ++ Text.ofNat maxIntegerDigits
      ++ " digits) for integer string conversion: value has " ++ Text.ofNat count
      ++ " digits; use sys.set_int_max_str_digits() to increase the limit"
  | .depth => "maximum recursion depth exceeded"

/-- How reading a part of a document fails: for a cause, with the text that was still to come; or
because something goes beyond the bounds of reading. -/
inductive Failure where
  | malformed (cause : Cause) (rest : Text)
  | excess (e : Excess)
  deriving DecidableEq, Repr

/-- The outcome of reading a part of a document.  Readers return what they read together with the
text still to come. -/
abbrev Result := Except Failure

/-- Stops reading. -/
def stop {α : Type} (cause : Cause) (rest : Text) : Result α :=
  .error (.malformed cause rest)

/-- A place in a document; lines and columns count from one. -/
inductive Place where
  | lineColumn (line column : Nat)
  | endOfDocument
  deriving DecidableEq, Repr

/-- The place before `rest` in a document that ends in `rest`. -/
def Place.before (document rest : Text) : Place :=
  if rest.isEmpty then .endOfDocument
  else
    let consumed := document.take (document.length - rest.length)
    .lineColumn (consumed.count '\n' + 1) ((consumed.reverse.takeWhile (· != '\n')).length + 1)

/-- The wording of a place. -/
def Place.message : Place → Text
  | .lineColumn line column => "line " ++ Text.ofNat line ++ ", column " ++ Text.ofNat column
  | .endOfDocument => "end of document"

/-- Why a text is no document. -/
inductive DocumentError where
  | malformed (cause : Cause) (place : Place)
  | excess (e : Excess)
  deriving DecidableEq, Repr

/-- The wording of an error with its place. -/
def DocumentError.message : DocumentError → Text
  | .malformed cause place => cause.message ++ " (at " ++ place.message ++ ")"
  | .excess e => e.message

end CrateSync.Toml
