/-
# The small parts of a TOML document

Reading spaces, comments, strings and keys.  Every reader takes the text still to come and returns
what it read together with what is then still to come.
-/
import CrateSync.Toml.Error

namespace CrateSync.Toml

/-! ## Characters -/

/-- Spaces and tabs. -/
def isSpace (c : Char) : Bool :=
  c = ' ' || c = '\t'

/-- Spaces, tabs and line feeds. -/
def isSpaceOrBreak (c : Char) : Bool :=
  isSpace c || c = '\n'

/-- Control characters, the tab among them. -/
def isControl (c : Char) : Bool :=
  c.toNat < 0x20 || c.toNat = 0x7F

/-- The characters that may not stand in comments and in strings on one line. -/
def isIllegal (c : Char) : Bool :=
  isControl c && c != '\t'

/-- The characters that may not stand in strings over several lines. -/
def isIllegalMultiline (c : Char) : Bool :=
  isIllegal c && c != '\n'

/-- The characters of a key without quotes. -/
def isBareKeyChar (c : Char) : Bool :=
  c.isAlphanum || c = '_' || c = '-'

/-! ## Spaces and comments -/

/-- Drops spaces and tabs. -/
def skipSpaces (t : Text) : Text :=
  t.dropWhile isSpace

/-- Drops a comment up to the end of its line, if one begins here. -/
def skipComment : Text → Result Text
  | '#' :: rest =>
    match (rest.takeWhile (· != '\n')).find? isIllegal with
    | some c => stop (.badCharacter c) (rest.dropWhile fun c => !isIllegal c)
    | none => .ok (rest.dropWhile (· != '\n'))
  | t => .ok t

/-- Drops at most `n` comments, with the spaces and line breaks around them. -/
def skipLooseAux : Nat → Text → Result Text
  | 0, t => .ok (t.dropWhile isSpaceOrBreak)
  | n + 1, t =>
    match t.dropWhile isSpaceOrBreak with
    | '#' :: rest => do
      let rest ← skipComment ('#' :: rest)
      skipLooseAux n rest
    | rest => .ok rest

/-- Drops all spaces, line breaks and comments. -/
def skipLoose (t : Text) : Result Text :=
  skipLooseAux t.length t

/-! ## Strings -/

/-- Reads the digits of a numeric escape. -/
def readHexEscape (width : Nat) (t : Text) : Result (Char × Text) :=
  let digits := t.take width
  let rest := t.drop width
  if digits.length = width && digits.all Text.isHexDigit then
    let n := Text.digitsValue 16 digits
    if n.isValidChar then .ok (Char.ofNat n, rest) else stop .noScalarValue rest
  else stop .badHexDigits t

/-- Reads an escape from behind its backslash.  In a string over several lines a backslash at the
end of a line stands for nothing, and takes the blank start of the next lines with it. -/
def readEscape (multiline : Bool) : Text → Result (Option Char × Text)
  | [] => stop .badEscape []
  | c :: rest =>
    if multiline && c = '\n' then .ok (none, rest.dropWhile isSpaceOrBreak)
    else if multiline && isSpace c then
      match skipSpaces rest with
      | [] => .ok (none, [])
      | '\n' :: next => .ok (none, next.dropWhile isSpaceOrBreak)
      | other => stop .badEscape other
    else if c = 'u' then (readHexEscape 4 rest).map fun (c, rest) => (some c, rest)
    else if c = 'U' then (readHexEscape 8 rest).map fun (c, rest) => (some c, rest)
    else if c = 'b' then .ok (some '\x08', rest)
    else if c = 't' then .ok (some '\t', rest)
    else if c = 'n' then .ok (some '\n', rest)
    else if c = 'f' then .ok (some '\x0c', rest)
    else if c = 'r' then .ok (some '\r', rest)
    else if c = '"' then .ok (some '"', rest)
    else if c = '\\' then .ok (some '\\', rest)
    else stop .badEscape rest

/-- Puts a character in front of a string that was read. -/
def consRead (c : Char) : Result (Text × Text) → Result (Text × Text) :=
  Except.map fun (content, rest) => (c :: content, rest)

/-- Reads at most `n` characters and escapes of a basic string, up to its closing quotes. -/
def readBasicAux (multiline : Bool) : Nat → Text → Result (Text × Text)
  | 0, t => stop .unterminatedString t
  | n + 1, t =>
    match t with
    | [] => stop .unterminatedString []
    | '"' :: rest =>
      if multiline then
        match rest with
        | '"' :: '"' :: after => .ok ([], after)
        | _ => consRead '"' (readBasicAux multiline n rest)
      else .ok ([], rest)
    | '\\' :: rest => do
      let (c?, rest) ← readEscape multiline rest
      match c? with
      | none => readBasicAux multiline n rest
      | some c => consRead c (readBasicAux multiline n rest)
    | c :: rest =>
      if (if multiline then isIllegalMultiline c else isIllegal c) then
        stop (.illegalCharacter c) t
      else consRead c (readBasicAux multiline n rest)

/-- Reads a basic string from behind its opening quotes. -/
def readBasic (multiline : Bool) (t : Text) : Result (Text × Text) :=
  readBasicAux multiline (t.length + 1) t

/-- Reads a literal string from behind its opening quotes: all up to the delimiter as it stands.
That the delimiter is missing weighs more than an illegal character. -/
def readLiteral (delimiter : Text) (illegal : Char → Bool) (t : Text) : Result (Text × Text) :=
  match Text.cutAt? delimiter t with
  | none => stop (.missingDelimiter delimiter) []
  | some (content, found) =>
    match content.find? illegal with
    | some c => stop (.badCharacter c) (t.dropWhile fun c => !illegal c)
    | none => .ok (content, found.drop delimiter.length)

/-- Drops a line feed right behind the opening quotes of a string over several lines. -/
def dropFirstBreak : Text → Text
  | '\n' :: rest => rest
  | t => t

/-- Adds up to two quotes that stand right behind the closing ones to the content. -/
def takeExtraQuotes (quote : Char) : Text × Text → Text × Text
  | (content, c :: d :: rest) =>
    if c = quote then
      if d = quote then (content ++ [quote, quote], rest) else (content ++ [quote], d :: rest)
    else (content, c :: d :: rest)
  | (content, [c]) => if c = quote then (content ++ [quote], []) else (content, [c])
  | (content, []) => (content, [])

/-- Reads a string with the quotes of its kind, if one begins here. -/
def readString? : Text → Option (Result (Text × Text))
  | '"' :: '"' :: '"' :: rest =>
    some ((readBasic true (dropFirstBreak rest)).map (takeExtraQuotes '"'))
  | '"' :: rest => some (readBasic false rest)
  | '\'' :: '\'' :: '\'' :: rest =>
    some ((readLiteral ['\'', '\'', '\''] isIllegalMultiline (dropFirstBreak rest)).map
      (takeExtraQuotes '\''))
  | '\'' :: rest => some (readLiteral ['\''] isIllegal rest)
  | _ => none

/-! ## Keys -/

/-- Reads one part of a key: bare, or as a string on one line. -/
def readKeyPart : Text → Result (Text × Text)
  | '"' :: rest => readBasic false rest
  | '\'' :: rest => readLiteral ['\''] isIllegal rest
  | t =>
    match t.takeWhile isBareKeyChar with
    | [] => stop .badKeyStart t
    | part => .ok (part, t.dropWhile isBareKeyChar)

/-- Reads a key of at most `n` parts and the spaces after it. -/
def readKeyAux : Nat → Text → Result (Key × Text)
  | 0, t => stop .badKeyStart t
  | n + 1, t => do
    let (part, rest) ← readKeyPart t
    match skipSpaces rest with
    | '.' :: rest =>
      let (parts, rest) ← readKeyAux n (skipSpaces rest)
      .ok (part :: parts, rest)
    | rest => .ok ([part], rest)

/-- Reads a dotted key and the spaces after it. -/
def readKey (t : Text) : Result (Key × Text) :=
  readKeyAux (t.length + 1) t

/-- Reads a key, the equals sign and the spaces after it. -/
def readKeyEquals (t : Text) : Result (Key × Text) := do
  let (key, rest) ← readKey t
  match rest with
  | '=' :: rest => .ok (key, skipSpaces rest)
  | _ => stop .missingEquals rest

end CrateSync.Toml
