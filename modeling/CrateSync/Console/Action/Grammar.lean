/-
# Reading the arguments of an action

The grammar of terms, as readings that call each other.  Each rule of it is tried inside of the rules
that led to it, and their number is bounded; `within` counts those rules that have no reading of
their own here.

`read` reads a whole text: once to find out whether it can be read, and if not, once more for the usual
mistakes.
-/
import CrateSync.Console.Action.Formatted
import CrateSync.Console.Action.Parameters
import CrateSync.Text.Lines
import CrateSync.Text.PlainForm

namespace CrateSync.Action

namespace Reading

/-! ## Leaves -/

/-- A name as a term: what counts is its plain form. -/
def nameTerm (t : Text) : Term :=
  .name (t.flatMap Text.plainForm)

/-- The symbols that are constants, with their kinds. -/
def constants : List (Text × Text) :=
  [("True", "True"), ("False", "False"), ("None", "None"), ("...", "ellipsis")]

/-- Checks a piece of a formatted text. -/
def checkPiece (raw : Bool) : Piece → Reading Unit
  | .literal t =>
    match if raw then none else escapeMistake? false t with
    | some m => stop m
    | none => pure ()
  | .term line t => do
    match (← read).embedded line t with
    | some h => halt h
    | none => pure ()
  | .fault m => stop m

/-- Checks quoted texts that stand side by side, each with its line.  Octets and characters do not mix;
`octets` tells what the texts in front are. -/
def checkQuotations : Option Bool → List (Quotation × Nat) → Reading Unit
  | _, [] => pure ()
  | octets, (q, line) :: rest => do
    if let some m := q.mistake? then stop m
    if octets.any (· != q.octets) then stop .mixedTexts
    if q.formatted then (pieces q.raw line q.content).forM (checkPiece q.raw)
    checkQuotations (some q.octets) rest

/-- Reads quoted texts that stand side by side. -/
def quotations : Reading Term := do
  let one : Reading (Quotation × Nat) := do
    let line := (← look).elim 1 Item.line
    match ← next with
    | .quotation q => return (q, line)
    | _ => failure
  let all ← several one
  checkQuotations none all
  return if all.any (·.1.formatted) then .other "f-string expression" else .quotation

/-- Reads a name, a number, quoted texts or a constant. -/
def leaf : Reading Term := do
  match (← look).map Item.lexeme with
  | some (.name t) => next *> pure (nameTerm t)
  | some (.number imaginary) => next *> pure (.number imaginary)
  | some (.quotation _) => within 1 quotations
  | some (.symbol t) =>
    match constants.lookup t with
    | some kind => next *> pure (.constant kind)
    | none => failure
  | _ => failure

/-- The operators between operands of arithmetic. -/
def arithmeticOperators : List String :=
  ["|", "^", "&", "<<", ">>", "+", "-", "*", "/", "//", "%", "@"]

/-- Operands with the operators between them as a term. -/
def arithmeticTerm (first : Term) : List (Text × Term) → Term
  | [] => first
  | [(operator, second)] =>
    if operator = "+".toList ∨ operator = "-".toList then .sum first second
    else .other "expression"
  | _ => .other "expression"

/-- Reads an operator of comparison. -/
def comparisonOperator : Reading Text :=
  oneOf ["==", "!=", "<=", "<", ">=", ">"]
    <|> (symbol "not" *> symbol "in" *> pure "not in".toList)
    <|> oneOf ["in"]
    <|> (symbol "is" *> symbol "not" *> pure "is not".toList)
    <|> oneOf ["is"]

/-- Whether a comma can be missing behind a term that begins here: not where a name in front of a
quoted text was meant to belong to it, nor where the name is the start of a word that is reserved in
some places. -/
def mayLackComma : List Item → Bool
  | ⟨.name _, _, _, _, _⟩ :: ⟨.quotation _, _, _, _, _⟩ :: _ => false
  | ⟨.name t, _, _, _, _⟩ :: _ => !((["_", "case", "match"].map String.toList).any t.isPrefixOf)
  | _ => true

/-- Whether brackets are open behind the part of a list that ends where another one begins. -/
def endsInBrackets (start stop : List Item) : Bool :=
  (start.take (start.length - stop.length)).getLast?.any (!·.opened.isEmpty)

/-- An argument of a call. -/
inductive Argument where
  | positional
  | keyword
  /-- The unpacked entries of a dictionary. -/
  | unpacked
  deriving DecidableEq, Repr

/-! ## Terms

The last argument of a reading bounds the depth of the calls. -/

mutual

/-- Reads a term. -/
def term : Nat → Reading Term
  | 0 => failure
  | n + 1 => remembered .term do
    hinting (commaHints n) <|> hinting (statementHints n) <|> choice n

/-- Reads a term that does not go by the usual mistakes: one of two by a condition, operands of "or",
or a function without a name. -/
def choice : Nat → Reading Term
  | 0 => failure
  | n + 1 =>
    (do
      let _ ← disjunction n
      symbol "if"
      let _ ← disjunction n
      symbol "else"
      let _ ← term n
      return .other "conditional expression")
    <|> disjunction n
    <|> lambda n

/-- Looks for a term that follows another one without a comma between, and for a condition without its
other branch. -/
def commaHints : Nat → Reading Unit
  | 0 => pure ()
  | n + 1 => do
    let start ← get
    if mayLackComma start then
      let both : Reading Term := do
        let first ← disjunction n
        let _ ← within 1 (withoutHints (choice n))
        return first
      if let some (first, rest) ← ahead both then
        if !first.isStatement && endsInBrackets start rest then stop .missingComma
    hint .missingElse do
      let _ ← disjunction n
      symbol "if"
      let _ ← disjunction n
      without (symbol "else" <|> symbol ":")

/-- Looks for the name of a statement with a term behind it. -/
def statementHints : Nat → Reading Unit
  | 0 => pure ()
  | n + 1 => do
    let statement : Reading Term := do
      let t ← name
      without (symbol "(")
      let _ ← starTerms n
      return nameTerm t
    match ← ahead statement with
    | some (.name t, _) => if (Term.name t).isStatement then stop (.missingCall t)
    | _ => pure ()

/-- Reads a function without a name. -/
def lambda : Nat → Reading Term
  | 0 => failure
  | n + 1 => within 1 do
    symbol "lambda"
    let _ ← optional (parameters (term n))
    symbol ":"
    let _ ← term n
    return .other "lambda"

/-- Reads operands of "or". -/
def disjunction : Nat → Reading Term
  | 0 => failure
  | n + 1 => remembered .disjunction do
    let first ← conjunction n
    let more ← many (within 1 (symbol "or" *> conjunction n))
    return if more.isEmpty then first else .other "expression"

/-- Reads operands of "and". -/
def conjunction : Nat → Reading Term
  | 0 => failure
  | n + 1 => remembered .conjunction do
    let first ← inversion n
    let more ← many (within 1 (symbol "and" *> inversion n))
    return if more.isEmpty then first else .other "expression"

/-- Reads a comparison, with "not" in front or without. -/
def inversion : Nat → Reading Term
  | 0 => failure
  | n + 1 => remembered .inversion do
    (do
      symbol "not"
      let _ ← inversion n
      return .other "expression")
    <|> within 1 (do
      let first ← arithmetic n
      let compared ← many (within 2 do
        let operator ← comparisonOperator
        let _ ← arithmetic n
        return operator)
      match compared with
      | [] => return first
      | operator :: _ => return .comparison operator first)

/-- Reads operands with arithmetic operators between.  They are of six strengths, with two rules for
each. -/
def arithmetic : Nat → Reading Term
  | 0 => failure
  | n + 1 => remembered .arithmetic (within 11 do
    let first ← operand n
    let more ← atMost (Prod.mk <$> oneOf arithmeticOperators <*> operand n) (← get).length
    return arithmeticTerm first more)

/-- Reads an operand, with signs in front and an exponent behind. -/
def operand : Nat → Reading Term
  | 0 => failure
  | n + 1 => remembered .operand do
    (do
      let _ ← oneOf ["+", "-"]
      return .signed (← operand n))
    <|> (do
      symbol "~"
      let _ ← operand n
      return .other "expression")
    <|> within 1 (do
      let base ← within 1 (
        (do
          symbol "await"
          let _ ← primary n
          return .other "await expression")
        <|> primary n)
      match ← optional (symbol "**" *> operand n) with
      | some _ => return .other "expression"
      | none => return base)

/-- Reads a leaf or a term in brackets, with attributes and arguments behind. -/
def primary : Nat → Reading Term
  | 0 => failure
  | n + 1 => remembered .primary (within 1 do
    let first ← atom n
    trailers first n)

/-- Reads attributes and arguments behind a term. -/
def trailers (first : Term) : Nat → Reading Term
  | 0 => pure first
  | n + 1 =>
    (do
      let t ← trailer first n
      trailers t n)
    <|> pure first

/-- Reads an attribute or the arguments of a call behind a term. -/
def trailer (first : Term) : Nat → Reading Term
  | 0 => failure
  | n + 1 =>
    (symbol "." *> name *> pure .attribute)
    <|> (generator n *> pure (.other "function call"))
    <|> (do
      symbol "("
      let given ← optional (arguments n)
      symbol ")"
      return if given.isNone && first.isName "set" then .emptySet else .other "function call")

/-- Reads a leaf or a term in brackets. -/
def atom : Nat → Reading Term
  | 0 => failure
  | n + 1 => within 1 do
    leaf
    <|> (before (symbol "(") *> within 1 (tuple n <|> group n <|> generator n))
    <|> (before (symbol "\x7b")
      *> within 1 (dictionary n <|> plainSet n <|> dictionaryBuilder n <|> setBuilder n))

/-- Reads a tuple in parentheses. -/
def tuple : Nat → Reading Term
  | 0 => failure
  | n + 1 => within 1 do
    symbol "("
    let items ← optional (within 1 do
      let first ← starItem n
      symbol ","
      return first :: (← optional (starItems n)).getD [])
    symbol ")"
    return .tuple (items.getD [])

/-- Reads a term in parentheses that only group. -/
def group : Nat → Reading Term
  | 0 => failure
  | n + 1 => within 1 do
    (do
      symbol "("
      let t ← within 1 (yield n <|> item n)
      symbol ")"
      return t)
    <|> hinting (do
      hint .starredAlone (symbol "(" *> starred n *> symbol ")")
      hint .doubleStarredAlone (symbol "(" *> symbol "**" *> term n *> symbol ")"))

/-- Reads what a function that can be suspended hands over. -/
def yield : Nat → Reading Term
  | 0 => failure
  | n + 1 => within 1 do
    symbol "yield"
    (symbol "from" *> term n *> pure ()) <|> (optional (starTerms n) *> pure ())
    return .other "yield expression"

/-- Reads a term in parentheses that gives one value after the other. -/
def generator : Nat → Reading Term
  | 0 => failure
  | n + 1 => within 1 do
    (do
      symbol "("
      within 1 (assignable n)
      clauses n
      symbol ")"
      return .other "generator expression")
    <|> hinting (builderHints n)

/-- Looks for mistakes in the element of what gives one value after the other. -/
def builderHints : Nat → Reading Unit
  | 0 => pure ()
  | n + 1 => do
    let brace := within 1 (symbol "\x7b")
    hint .starredElement (within 1 (oneOf ["(", "\x7b"]) *> starred n *> clauses n)
    hint .bareElement (brace *> starItem n *> symbol "," *> starItems n *> clauses n)
    hint .bareElement (brace *> starItem n *> symbol "," *> clauses n)

/-- Reads a dictionary. -/
def dictionary : Nat → Reading Term
  | 0 => failure
  | n + 1 => within 1 do
    (do
      symbol "\x7b"
      let entries ← optional (within 1 (separated (entry n) <* optional (symbol ",")))
      symbol "\x7d"
      return .dictionary (entries.getD []))
    <|> (do
      symbol "\x7b"
      within 1 (entriesHints n)
      failure)

/-- Reads an entry of a dictionary. -/
def entry : Nat → Reading (Option Term × Term)
  | 0 => failure
  | n + 1 => within 1 do
    (do
      symbol "**"
      return (none, ← arithmetic n))
    <|> (do
      let (key, content) ← keyed n
      return (some key, content))

/-- Reads a key with its value. -/
def keyed : Nat → Reading (Term × Term)
  | 0 => failure
  | n + 1 => within 1 do
    let key ← term n
    symbol ":"
    return (key, ← term n)

/-- Looks for mistakes in the entries of a dictionary. -/
def entriesHints : Nat → Reading Unit
  | 0 => pure ()
  | n + 1 => do
    let _ ← finds do
      let _ ← separated (entry n)
      symbol ","
      within 1 do
        hint .missingColon (term n *> without (symbol ":"))
        valueHints n
    valueHints n

/-- Looks for mistakes in the value of an entry. -/
def valueHints : Nat → Reading Unit
  | 0 => pure ()
  | n + 1 => do
    hint .starredValue (term n *> symbol ":" *> symbol "*" *> arithmetic n)
    hint .missingValue (term n *> symbol ":" *> (symbol "\x7d" <|> symbol ","))

/-- Reads a set with items. -/
def plainSet : Nat → Reading Term
  | 0 => failure
  | n + 1 => within 1 do
    symbol "\x7b"
    let items ← starItems n
    symbol "\x7d"
    return .set items

/-- Reads a dictionary whose entries are given one after the other. -/
def dictionaryBuilder : Nat → Reading Term
  | 0 => failure
  | n + 1 => within 1 do
    (do
      symbol "\x7b"
      let _ ← keyed n
      clauses n
      symbol "\x7d"
      return .other "dict comprehension")
    <|> hinting (hint .doubleStarredElement
      (symbol "\x7b" *> symbol "**" *> arithmetic n *> clauses n *> symbol "\x7d"))

/-- Reads a set whose items are given one after the other. -/
def setBuilder : Nat → Reading Term
  | 0 => failure
  | n + 1 => within 1 do
    (do
      symbol "\x7b"
      let _ ← item n
      clauses n
      symbol "\x7d"
      return .other "set comprehension")
    <|> hinting (builderHints n)

/-- Reads a name with a term for its value. -/
def assignment : Nat → Reading Term
  | 0 => failure
  | n + 1 => within 1 do
    let _ ← name
    symbol ":="
    let _ ← term n
    return .other "named expression"

/-- Reads a name with a term for its value, or a term that has no such sign behind it. -/
def assignable : Nat → Reading Unit
  | 0 => failure
  | n + 1 => (assignment n *> pure ()) <|> (term n *> without (symbol ":="))

/-- Reads an item of a tuple or a set. -/
def item : Nat → Reading Term
  | 0 => failure
  | n + 1 => within 1 do
    assignment n
    <|> hinting (itemHints n)
    <|> (do
      let t ← term n
      without (symbol ":=")
      return t)

/-- Looks for an assignment where a comparison was meant. -/
def itemHints : Nat → Reading Unit
  | 0 => pure ()
  | n + 1 => do
    if let some (t, _) ← ahead (term n <* symbol ":=" <* term n) then
      stop (.namedExpression t.kind)
    let noAssignment := without (symbol "=" <|> symbol ":=")
    hint .oneEquals (name *> symbol "=" *> arithmetic n *> noAssignment)
    let compared : Reading Term := do
      without (within 1 ((tuple n *> pure ()) <|> (generator n *> pure ())
        <|> (oneOf ["True", "None", "False"] *> pure ())))
      arithmetic n <* symbol "=" <* arithmetic n <* noAssignment
    if let some (t, _) ← ahead compared then stop (.assignedHere t.kind)

/-- Reads an item, or one that stands for several. -/
def starItem : Nat → Reading Term
  | 0 => failure
  | n + 1 => within 1 do
    (do
      symbol "*"
      return .starred (← arithmetic n))
    <|> item n

/-- Reads several such items. -/
def starItems : Nat → Reading (List Term)
  | 0 => failure
  | n + 1 => within 1 (separated (starItem n) <* optional (symbol ","))

/-- Reads a star and a term. -/
def starred : Nat → Reading Unit
  | 0 => failure
  | n + 1 => within 1 (symbol "*" *> term n *> pure ())

/-- Reads a term without brackets around it, or one behind a star. -/
def starTerm : Nat → Reading Term
  | 0 => failure
  | n + 1 => within 1 do
    (do
      symbol "*"
      return .starred (← arithmetic n))
    <|> term n

/-- Reads such terms with commas between. -/
def starTerms : Nat → Reading Term
  | 0 => failure
  | n + 1 => within 1 do
    let first ← starTerm n
    let more ← many (within 1 (symbol "," *> starTerm n))
    let comma ← optional (symbol ",")
    return if more.isEmpty && comma.isNone then first else .tuple (first :: more)

/-- Reads clauses that name values one after the other. -/
def clauses : Nat → Reading Unit
  | 0 => failure
  | n + 1 => within 1 (several (clause n) *> pure ())

/-- Reads one such clause, with its conditions.  Behind the word "in" there is no other way to go
on. -/
def clause : Nat → Reading Unit
  | 0 => failure
  | n + 1 => within 1 do
    let head : Reading Unit := do
      let _ ← optional (symbol "async")
      symbol "for"
      let _ ← targets n
      symbol "in"
    match ← optional head with
    | some _ => do
      let _ ← disjunction n
      let _ ← many (within 1 (symbol "if" *> disjunction n))
    | none => hinting do
      let named := optional (symbol "async") *> symbol "for" *> starTerms n
      if let some (t, _) ← ahead named then
        if let some bad := t.badTarget? then stop (.assigned bad.kind)

/-- Reads targets of a clause. -/
def targets : Nat → Reading (List Term)
  | 0 => failure
  | n + 1 => within 1 do
    let first ← target n
    let more ← many (within 1 (symbol "," *> target n))
    let _ ← optional (symbol ",")
    return first :: more

/-- Reads a target of a clause. -/
def target : Nat → Reading Term
  | 0 => failure
  | n + 1 => remembered .target do
    (do
      symbol "*"
      return .starred (← within 1 (without (symbol "*") *> target n)))
    <|> attributeTarget n

/-- Reads an attribute, a name or targets in parentheses. -/
def attributeTarget : Nat → Reading Term
  | 0 => failure
  | n + 1 => remembered .attributeTarget do
    (targetPrimary n *> symbol "." *> name *> without (oneOf ["(", "."]) *> pure .attribute)
    <|> within 1 (
      (nameTerm <$> name)
      <|> (symbol "(" *> attributeTarget n <* symbol ")")
      <|> (do
        symbol "("
        let items ← optional (within 1 do
          let first ← target n
          let more ← many (within 1 (symbol "," *> target n))
          let comma ← optional (symbol ",")
          if more.isEmpty && comma.isNone then failure
          return first :: more)
        symbol ")"
        return .tuple (items.getD [])))

/-- Reads a term with attributes and arguments behind up to the last of them. -/
def targetPrimary : Nat → Reading Term
  | 0 => failure
  | n + 1 => remembered .targetPrimary (within 1 do
    let first ← atom n
    before (oneOf ["(", "."])
    targetTrailers first n)

/-- Reads attributes and arguments behind a term up to the last of them. -/
def targetTrailers (first : Term) : Nat → Reading Term
  | 0 => pure first
  | n + 1 =>
    (do
      let t ← trailer first n
      before (oneOf ["(", "."])
      targetTrailers t n)
    <|> pure first

/-- Reads the arguments of a call up to its closing parenthesis. -/
def arguments : Nat → Reading Term
  | 0 => failure
  | n + 1 => remembered .arguments do
    (argumentList n *> optional (symbol ",") *> before (symbol ")")
      *> pure (.other "function call"))
    <|> hinting (argumentsHints n)

/-- Reads arguments: first those without names, then those with names and unpacked ones. -/
def argumentList : Nat → Reading (List Argument)
  | 0 => failure
  | n + 1 => within 1 do
    let unnamed : Reading Argument := within 1 (
      (starred n *> pure .positional)
      <|> (within 1 (assignable n) *> without (symbol "=") *> pure .positional))
    (do
      let first ← separated unnamed
      let more ← optional (within 1 (symbol "," *> namedArguments n))
      return first ++ more.getD [])
    <|> namedArguments n

/-- Reads arguments with names and unpacked ones. -/
def namedArguments : Nat → Reading (List Argument)
  | 0 => failure
  | n + 1 => within 1 do
    let named : Reading Argument :=
      hinting (namedHints n) <|> (name *> symbol "=" *> term n *> pure .keyword)
    let namedOrStarred := within 1 (named <|> (starred n *> pure .positional))
    let namedOrUnpacked := within 1 (named <|> (symbol "**" *> term n *> pure .unpacked))
    (do
      let first ← separated namedOrStarred
      symbol ","
      let more ← separated namedOrUnpacked
      return first ++ more)
    <|> separated namedOrStarred
    <|> separated namedOrUnpacked

/-- Looks for mistakes in an argument with a name. -/
def namedHints : Nat → Reading Unit
  | 0 => pure ()
  | n + 1 => do
    if let some (word, _) ← ahead (oneOf ["True", "False", "None"] <* symbol "=") then
      stop (.assigned word)
    hint .oneEquals (name *> symbol "=" *> term n *> clauses n)
    hint .assignedExpression (without (name *> symbol "=") *> term n *> symbol "=")

/-- Looks for mistakes in the arguments of a call. -/
def argumentsHints : Nat → Reading Unit
  | 0 => pure ()
  | n + 1 => do
    hint .unpackedLate (argumentList n *> symbol "," *> symbol "*")
    hint .bareGenerator (term n *> clauses n *> symbol ","
      *> optional ((argumentList n *> pure ()) <|> (term n *> clauses n)))
    hint .oneEquals (name *> symbol "=" *> term n *> clauses n)
    let several ← ahead (argumentList n <* clauses n)
    if several.any (1 < ·.1.count .positional) then stop .bareGenerator
    if several.isNone then
      hint .bareGenerator (argumentList n *> symbol "," *> term n *> clauses n)
      if let some (list, _) ← ahead (argumentList n <* symbol "," <* argumentList n) then
        stop (.unnamedLate (list.contains .unpacked))

end

/-! ## Whole texts -/

/-- Reads terms up to the end of the text. -/
def whole (n : Nat) : Reading Term :=
  within 1 do
    let terms ← within 1 do
      let first ← term n
      let more ← many (within 1 (symbol "," *> term n))
      let comma ← optional (symbol ",")
      return if more.isEmpty && comma.isNone then first else .tuple (first :: more)
    let _ ← many (do if (← next) = .lineEnd then pure () else failure)
    if (← next) = .finish then return terms else failure

/-- Reads a term from inside of a formatted text, which stands in parentheses. -/
def field (n : Nat) : Reading Term :=
  within 1 (starTerms n)

end Reading

/-! ## Texts -/

/-- The mistake that stops the cutting of a text and tells more than another one that is found in front
of it.  A lexeme that has been looked at is one in front; a bracket that is never closed tells
more than a mistake in a later line, other ends of the cutting do not. -/
def laterMistake? (items : List Item) (last : Item) : Option Halt :=
  match items.getLast? with
  | some ⟨.broken h, place, opened, _, _⟩ =>
    if place ≤ last.place then none
    else
      match h, opened with
      | .plain _, (c, line) :: _ =>
        if line < last.line then some (.plain (.neverClosed c)) else none
      | .plain _, [] => none
      | h, _ => some h
  | _ => none

/-- The term that a reading gives, or why there is none. -/
def result (reading : Nat → Reading Term) (embedded : Nat → Text → Option Halt)
    (items : List Item) : Except Halt Term :=
  let run (hints : Bool) (last : Option Item) :=
    (reading (Reading.deepest + 1) ⟨hints, 0, embedded⟩ items).run.run.run ⟨∅, last⟩
  let settle (h : Halt) (memory : Memory) : Halt :=
    match h, memory.last with
    | .exhausted, _ => .exhausted
    | h, some last => if last.last then h else (laterMistake? items last).getD h
    | h, none => h
  match run false none with
  | (.error h, memory) => .error (settle h memory)
  | (.ok (some (t, _)), _) => .ok t
  | (.ok none, first) =>
    match run true first.last with
    | (.error h, second) => .error (settle h second)
    | (.ok _, second) =>
      if first.last.map Item.lexeme = some .indent then .error (.plain .indented)
      else .error ((second.last.bind (laterMistake? items)).getD (.plain .disorder))

/-- Why a term in a formatted text cannot be read; at most `n` formatted texts stand one inside of the
other. -/
def fieldHalt? : Nat → Nat → Text → Option Halt
  | 0, _, _ => none
  | n + 1, line, t =>
    match result Reading.field (fieldHalt? n) (lexemes line ("(" ++ t ++ ")")) with
    | .ok _ => none
    | .error (.plain m) => some (.final (.embedded m))
    | .error h => some h

/-- The term that a text writes, or why it cannot be read. -/
def read (t : Text) : Except Halt Term :=
  result Reading.whole (fieldHalt? t.length) (lexemes 1 (Text.unifyBreaks t))

end CrateSync.Action
