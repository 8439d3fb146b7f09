/-
# The arguments of an action as terms

What arguments say once their parts are put together, and which of them are literal values: numbers,
quoted texts, the three constants, and tuples, sets and dictionaries of such values.
-/
import CrateSync.Text.Basic

namespace CrateSync.Action

/-- A term.  Of those that have no value only the kind is kept. -/
inductive Term where
  | name (t : Text)
  | number (imaginary : Bool)
  | quotation
  /-- A constant that has a name of its own. -/
  | constant (kind : Text)
  | tuple (items : List Term)
  | set (items : List Term)
  | emptySet
  /-- A dictionary; an entry without a key stands for the entries of another dictionary. -/
  | dictionary (entries : List (Option Term × Term))
  | signed (operand : Term)
  | sum (left right : Term)
  | starred (operand : Term)
  /-- A chain of comparisons: its first operator and its first operand. -/
  | comparison (operator : Text) (operand : Term)
  | attribute
  | other (kind : Text)
  deriving Repr

/-- The word for the kind of a term. -/
def Term.kind : Term → Text
  | .name _ => "name"
  | .number _ => "literal"
  | .quotation => "literal"
  | .constant kind => kind
  | .tuple _ => "tuple"
  | .set _ => "set display"
  | .emptySet => "function call"
  | .dictionary _ => "dict literal"
  | .signed _ => "expression"
  | .sum _ _ => "expression"
  | .starred _ => "starred"
  | .comparison _ _ => "comparison"
  | .attribute => "attribute"
  | .other kind => kind

/-- Whether a term is a name, and the given one. -/
def Term.isName (t : Text) : Term → Bool
  | .name u => u == t
  | _ => false

/-- Whether a term is the name of one of the two statements that once needed no parentheses. -/
def Term.isStatement (t : Term) : Bool :=
  t.isName "print" || t.isName "exec"

/-! ## Targets -/

mutual

/-- The first part of a term that nothing can be assigned to.  A membership test stands for its left
side, and other comparisons do not count. -/
def Term.badTarget? : Term → Option Term
  | .name _ => none
  | .attribute => none
  | .starred t => t.badTarget?
  | .tuple items => badTargetAmong? items
  | .comparison operator t =>
    if operator = "in".toList then t.badTarget? else none
  | t => some t

/-- The first such part among terms. -/
def Term.badTargetAmong? : List Term → Option Term
  | [] => none
  | t :: rest => t.badTarget? <|> badTargetAmong? rest

end

/-! ## Values -/

/-- The value of a literal term, as far as others depend on it. -/
inductive Value where
  | number (imaginary : Bool)
  | fixed
  /-- A value that may not stand in a set nor be a key. -/
  | changeable (kind : Text)
  deriving DecidableEq, Repr

/-- Why a term has no value. -/
inductive Refusal where
  | notLiteral
  | noKey
  | changeable (kind : Text)
  deriving DecidableEq, Repr

/-- The wording of a refusal. -/
def Refusal.message : Refusal → Text
  | .notLiteral => "malformed node or string"
  | .noKey => "malformed node or string: None"
  | .changeable kind => "unhashable type: " ++ ['\''] ++ kind ++ ['\'']

/-- Refuses a changeable value. -/
def Value.fix : Value → Except Refusal Unit
  | .changeable kind => .error (.changeable kind)
  | _ => .ok ()

/-- The value of several values together: changeable if one of them is. -/
def Value.together : List Value → Value
  | [] => .fixed
  | .changeable kind :: _ => .changeable kind
  | _ :: rest => together rest

/-- The value of a number with or without a sign. -/
def Term.signedNumber? : Term → Option Bool
  | .number imaginary => some imaginary
  | .signed (.number imaginary) => some imaginary
  | _ => none

mutual

/-- The value of a term. -/
def Term.value : Term → Except Refusal Value
  | .number imaginary => .ok (.number imaginary)
  | .quotation => .ok .fixed
  | .constant _ => .ok .fixed
  | .tuple items => do return Value.together (← valuesOf items)
  | .set items => do
    fixedValues items
    return .changeable "set"
  | .emptySet => .ok (.changeable "set")
  | .dictionary entries => do
    entryValues entries
    return .changeable "dict"
  | .signed t =>
    match t with
    | .number imaginary => .ok (.number imaginary)
    | _ => .error .notLiteral
  | .sum left right =>
    match left.signedNumber?, right with
    | some false, .number true => .ok (.number true)
    | _, _ => .error .notLiteral
  | _ => .error .notLiteral

/-- The values of the items of a tuple. -/
def Term.valuesOf : List Term → Except Refusal (List Value)
  | [] => .ok []
  | t :: rest => do
    let v ← t.value
    return v :: (← valuesOf rest)

/-- Checks the items of a set, one after the other. -/
def Term.fixedValues : List Term → Except Refusal Unit
  | [] => .ok ()
  | t :: rest => do
    (← t.value).fix
    fixedValues rest

/-- Checks the entries of a dictionary, one after the other. -/
def Term.entryValues : List (Option Term × Term) → Except Refusal Unit
  | [] => .ok ()
  | (none, _) :: _ => .error .noKey
  | (some key, content) :: rest => do
    let k ← key.value
    let _ ← content.value
    k.fix
    entryValues rest

end

end CrateSync.Action
