/-
# JSON

Writing values as JSON on one line of printable ASCII characters: everything else in a string is
escaped by number, in units of sixteen bits.
-/
import CrateSync.Text.Basic

namespace CrateSync

/-- A value to be written. -/
inductive Json where
  | boolean (b : Bool)
  | integer (n : Int)
  | string (t : Text)
  | array (items : List Json)
  | object (fields : List (Text × Json))
  deriving Repr

namespace Json

/-- The escape of a unit of sixteen bits. -/
def escapeUnit (n : Nat) : Text :=
  '\\' :: 'u' :: Text.ofNatHex 4 n

/-- A character inside a string. -/
def escapeChar (c : Char) : Text :=
  let n := c.toNat
  if c = '"' then ['\\', '"']
  else if c = '\\' then ['\\', '\\']
  else if c = '\n' then ['\\', 'n']
  else if c = '\r' then ['\\', 'r']
  else if c = '\t' then ['\\', 't']
  else if c = '\x08' then ['\\', 'b']
  else if c = '\x0c' then ['\\', 'f']
  else if 0x20 ≤ n ∧ n < 0x7F then [c]
  else if n < 0x10000 then escapeUnit n
  else
    let above := n - 0x10000
    escapeUnit (0xD800 + above / 0x400) ++ escapeUnit (0xDC00 + above % 0x400)

/-- A text as a string. -/
def writeString (t : Text) : Text :=
  '"' :: t.flatMap escapeChar ++ ['"']

mutual

/-- A value on one line; the fields of an object are written in the order in which it has them. -/
def write : Json → Text
  | .boolean b => if b then "true" else "false"
  | .integer n => Text.ofInt n
  | .string t => writeString t
  | .array items => '[' :: writeItems items ++ [']']
  | .object fields => '\x7b' :: writeFields fields ++ ['\x7d']

/-- The items of an array, with commas between them. -/
def writeItems : List Json → Text
  | [] => []
  | [item] => write item
  | item :: next :: rest => write item ++ ", " ++ writeItems (next :: rest)

/-- The fields of an object, with commas between them. -/
def writeFields : List (Text × Json) → Text
  | [] => []
  | [(name, value)] => writeString name ++ ": " ++ write value
  | (name, value) :: next :: rest =>
    writeString name ++ ": " ++ write value ++ ", " ++ writeFields (next :: rest)

end

end Json

end CrateSync
