/-
# Marked-up text

Text for the console may hold tags in square brackets, such as `[red]` and `[/red]`, which change how
the text between them is shown and are not shown themselves.  A tag is recognised by its first
character; a backslash in front makes it ordinary text.  Where the console has no colours, showing a
marked-up text means taking the tags out.  The console also knows pictures by names between colons; these
names are left as they are here.

* `render` takes the tags out; it refuses an end of a style that was not begun, and an action whose
  arguments are not well formed;
* `escape` puts backslashes in front of what would be a tag.
-/
import CrateSync.Console.Action
import CrateSync.Console.Style

namespace CrateSync.Markup

/-! ## Recognising tags -/

/-- Whether a tag may begin with a character. -/
def isTagStart (c : Char) : Bool :=
  ('a' ≤ c && c ≤ 'z') || c = '#' || c = '/' || c = '@'

/-- The inside of a tag from behind its opening bracket, and what follows the closing one. -/
def tagBody? (t : Text) : Option (Text × Text) :=
  match t with
  | [] => none
  | c :: _ =>
    if isTagStart c then
      match t.dropWhile fun c => c != '[' && c != ']' with
      | ']' :: rest => some (t.takeWhile fun c => c != '[' && c != ']', rest)
      | _ => none
    else none

/-- A place in a text where a tag begins, with the backslashes in front of it. -/
structure Found where
  /-- The text in front of the backslashes. -/
  before : Text
  /-- The number of backslashes. -/
  backslashes : Nat
  /-- The inside of the tag. -/
  body : Text
  /-- What follows the tag. -/
  rest : Text
  deriving DecidableEq, Repr

/-- The tag, with the backslashes in front of it, that begins right here. -/
def tagHere? (t : Text) : Option Found :=
  match t.dropWhile (· = '\\') with
  | '[' :: inside =>
    (tagBody? inside).map fun (body, rest) =>
      ⟨[], (t.takeWhile (· = '\\')).length, body, rest⟩
  | _ => none

/-- The first tag of a text. -/
def firstTag? : Text → Option Found
  | [] => none
  | c :: rest =>
    match tagHere? (c :: rest) with
    | some found => some found
    | none => (firstTag? rest).map fun found => { found with before := c :: found.before }

/-! ## Escaping -/

/-- Puts backslashes in front of at most `n` tags, and doubles those that are there already. -/
def escapeAux : Nat → Text → Text
  | 0, t => t
  | n + 1, t =>
    match firstTag? t with
    | none => t
    | some found =>
      found.before ++ List.replicate (2 * found.backslashes + 1) '\\' ++ '[' :: found.body
        ++ ']' :: escapeAux n found.rest

/-- Whether a text ends in a single backslash. -/
def endsInBackslash (t : Text) : Bool :=
  ['\\'].isSuffixOf t && !(['\\', '\\'].isSuffixOf t)

/-- The marked-up text that shows a text.  A single backslash at the end is doubled, lest it join
what follows. -/
def escape (t : Text) : Text :=
  let escaped := escapeAux t.length t
  if endsInBackslash escaped then escaped ++ ['\\'] else escaped

/-! ## Parts -/

/-- A part of a marked-up text. -/
inductive Part where
  | plain (t : Text)
  /-- A tag and the number of characters in front of it. -/
  | tag (position : Nat) (body : Text)
  deriving DecidableEq, Repr

/-- The parts of a text with at most `n` tags, behind `position` characters.  Of the backslashes in
front of a tag each pair is shown as one, and an odd one makes the tag ordinary text. -/
def partsAux : Nat → Nat → Text → List Part
  | 0, _, t => [.plain t]
  | n + 1, position, t =>
    match firstTag? t with
    | none => [.plain t]
    | some found =>
      let start := position + found.before.length + found.backslashes
      let next := start + found.body.length + 2
      let shown := List.replicate (found.backslashes / 2) '\\'
      let here :=
        if found.backslashes % 2 = 1 then Part.plain ('[' :: found.body ++ [']'])
        else Part.tag start found.body
      .plain found.before :: .plain shown :: here :: partsAux n next found.rest

/-- The parts of a text. -/
def parts (t : Text) : List Part :=
  partsAux t.length 0 t

/-- The text of a plain part: a backslash in front of a bracket is not shown. -/
def unescapeBrackets : Text → Text
  | [] => []
  | '\\' :: '[' :: rest => '[' :: unescapeBrackets rest
  | c :: rest => c :: unescapeBrackets rest

/-! ## Taking tags out -/

/-- A range of a text that is shown in a style. -/
structure Span extends Extent where
  style : Text
  deriving DecidableEq, Repr

/-- A text without tags, and the styles of its parts. -/
structure Styled where
  text : Text
  spans : List Span
  deriving DecidableEq, Repr

/-- A text without styles. -/
def Styled.plain (t : Text) : Styled :=
  ⟨t, []⟩

/-- Why a marked-up text cannot be shown. -/
inductive Fault where
  /-- The end of a style that is not open. -/
  | notOpen (tag : Text) (position : Nat)
  /-- The end of any style where none is open. -/
  | nothingOpen (position : Nat)
  | style (f : Style.Fault)
  | action (f : Action.Fault)
  deriving DecidableEq, Repr

/-- The wording of a fault. -/
def Fault.message : Fault → Text
  | .notOpen tag position =>
    "closing tag '[" ++ tag ++ "]' at position " ++ Text.ofNat position
      ++ " doesn't match any open tag"
  | .nothingOpen position =>
    "closing tag '[/]' at position " ++ Text.ofNat position ++ " has nothing to close"
  | .style f => f.message
  | .action f => f.message

/-- The name in a tag, in front of an equals sign if it has one. -/
def tagName (body : Text) : Text :=
  body.takeWhile (· != '=')

/-- What a tag has behind its first equals sign. -/
def tagArguments? (body : Text) : Option Text :=
  match body.dropWhile (· != '=') with
  | [] => none
  | _ :: arguments => some arguments

/-- A tag that has not been closed: the one name of its style, what it has behind an equals sign, and
the number of characters shown before it. -/
structure OpenTag where
  name : Text
  arguments : Option Text
  start : Nat
  deriving DecidableEq, Repr

/-- Whether a tag stands for something to be done rather than for a style. -/
def OpenTag.isAction (tag : OpenTag) : Bool :=
  tag.name.head? = some '@'

/-- The range that a tag covers if it is closed behind some characters. -/
def OpenTag.span (tag : OpenTag) (stop : Nat) : Span :=
  ⟨⟨tag.start, stop⟩, tag.name ++ (tag.arguments.map ([' '] ++ ·)).getD []⟩

/-- The normal name of a style, or its fault. -/
def styleName (t : Text) : Except Fault Text :=
  (Style.normalName t).mapError .style

/-- The ranges that closing a tag gives; the arguments of an action have to be well formed. -/
def OpenTag.close (tag : OpenTag) (stop : Nat) : Except Fault (List Span) :=
  if tag.isAction then
    match Action.check (tag.arguments.getD []) with
    | .ok () => .ok []
    | .error f => .error (.action f)
  else .ok [tag.span stop]

/-- The open tags, last one first, behind a tag, and the ranges that it closes.  The name in a closing
tag picks the last open tag with that name; no name picks the last one. -/
def afterTag (opened : List OpenTag) (shown position : Nat) (body : Text) :
    Except Fault (List OpenTag × List Span) :=
  match tagName body with
  | '/' :: name =>
    if (Text.trim name).isEmpty then
      match opened with
      | [] => .error (.nothingOpen position)
      | tag :: rest => do
        return (rest, ← tag.close shown)
    else do
      let style ← styleName (Text.trim name)
      match opened.find? fun tag => tag.name == style with
      | none => .error (.notOpen body position)
      | some tag => do
        return (opened.eraseP fun tag => tag.name == style, ← tag.close shown)
  | name => do
    return (⟨← styleName name, tagArguments? body, shown⟩ :: opened, [])

/-- The text of parts behind which some tags are open and some characters shown; tags that are never
closed cover the rest of the text. -/
def renderParts (opened : List OpenTag) (shown : Nat) : List Part → Except Fault Styled
  | [] => .ok ⟨[], opened.map fun tag => tag.span shown⟩
  | .plain t :: rest =>
    let t := unescapeBrackets t
    (renderParts opened (shown + t.length) rest).map fun s => { s with text := t ++ s.text }
  | .tag position body :: rest => do
    let (opened, closed) ← afterTag opened shown position body
    let s ← renderParts opened shown rest
    return { s with spans := closed ++ s.spans }

/-- The text that a marked-up text shows. -/
def render (t : Text) : Except Fault Styled :=
  renderParts [] 0 (parts t)

end CrateSync.Markup
