/-
# Readings

A reading takes a term, or a part of one, off the front of a list of lexemes.  It gives what it has
read, or finds nothing, or comes to a halt; in each case it remembers what the rules have found so
far, so that no rule is tried twice at one place.

A text that cannot be read is read a second time, with `hints`: then also the usual mistakes are
looked for.
-/
import Std.Data.HashMap
import CrateSync.Console.Action.Lexeme
import CrateSync.Console.Action.Term

namespace CrateSync.Action

/-- The rules whose findings are remembered. -/
inductive Rule where
  | term
  | disjunction
  | conjunction
  | inversion
  | arithmetic
  | operand
  | primary
  | arguments
  | target
  | attributeTarget
  | targetPrimary
  deriving DecidableEq, Repr, Hashable

/-- What a reading remembers: the findings of rules, by the place of the lexeme that they were tried
at, and the last lexeme that has been looked at. -/
structure Memory where
  found : Std.HashMap (Rule × Nat) (Option (Term × List Item))
  last : Option Item

/-- What a reading goes by. -/
structure Manner where
  /-- Whether to look for the usual mistakes. -/
  hints : Bool
  /-- The number of rules that are being tried, one inside of the other. -/
  level : Nat
  /-- What is wrong with a term that begins in a line of a formatted text. -/
  embedded : Nat → Text → Option Halt

/-- A reading from the front of a list of lexemes.  What it remembers outlasts a halt. -/
abbrev Reading :=
  ReaderT Manner (StateT (List Item) (OptionT (ExceptT Halt (StateM Memory))))

namespace Reading

/-! ## Steps -/

/-- Comes to a halt. -/
def halt {α : Type} (h : Halt) : Reading α :=
  fun _ _ => OptionT.mk (throw h)

/-- Stops with a mistake. -/
def stop {α : Type} (m : Mistake) : Reading α :=
  halt (.plain m)

/-- The next lexeme, which is left where it is; where the text could not be cut, a halt. -/
def look : Reading (Option Item) := do
  match (← get).head? with
  | none => return none
  | some item =>
    modifyThe Memory fun memory =>
      if memory.last.all (·.place < item.place) then { memory with last := some item } else memory
    match item.lexeme with
    | .broken h => halt h
    | _ => return some item

/-- Reads the next lexeme. -/
def next : Reading Lexeme := do
  match ← look with
  | none => failure
  | some item =>
    modify List.tail
    return item.lexeme

/-- The most rules that may be tried one inside of the other. -/
def deepest : Nat :=
  6000

/-- A reading inside of more rules. -/
def within {α : Type} (rules : Nat) (p : Reading α) : Reading α := fun manner =>
  if deepest < manner.level + rules then halt .exhausted manner
  else p { manner with level := manner.level + rules }

/-- A reading by a rule; what the rule has found here before counts again. -/
def remembered (r : Rule) (p : Reading Term) : Reading Term :=
  within 1 do
    match ← look with
    | none => failure
    | some item =>
      match (← getThe Memory).found[(r, item.place)]? with
      | some none => failure
      | some (some (t, rest)) =>
        set rest
        return t
      | none => fun manner items => OptionT.mk do
        let found ← (p manner items).run
        modifyThe Memory fun memory =>
          { memory with found := memory.found.insert (r, item.place) found }
        return found

/-- What a reading finds from here on, and what it leaves, without going there. -/
def ahead {α : Type} (p : Reading α) : Reading (Option (α × List Item)) := fun manner items =>
  OptionT.mk do
    let found ← (p manner items).run
    return some (found, items)

/-- Whether a reading finds something from here on. -/
def finds {α : Type} (p : Reading α) : Reading Bool :=
  return (← ahead p).isSome

/-- Passes if a reading finds something from here on. -/
def before {α : Type} (p : Reading α) : Reading Unit := do
  if !(← finds p) then failure

/-- Passes if a reading finds nothing from here on. -/
def without {α : Type} (p : Reading α) : Reading Unit := do
  if ← finds p then failure

/-- Stops with a mistake if a reading finds something from here on. -/
def hint {α : Type} (m : Mistake) (p : Reading α) : Reading Unit := do
  if ← finds p then stop m

/-- Looks for the usual mistakes, if a reading has to, and finds nothing else. -/
def hinting {α : Type} (p : Reading Unit) : Reading α := do
  if (← read).hints then within 1 p
  failure

/-- A reading that does not look for the usual mistakes. -/
def withoutHints {α : Type} (p : Reading α) : Reading α :=
  withReader (fun manner => { manner with hints := false }) p

/-! ## Symbols and names -/

/-- Reads one symbol. -/
def symbol (t : Text) : Reading Unit := do
  if (← next) = .symbol t then pure () else failure

/-- Reads one of several symbols. -/
def oneOf (ts : List String) : Reading Text := do
  match ← next with
  | .symbol t => if (ts.map String.toList).contains t then return t else failure
  | _ => failure

/-- Reads a name. -/
def name : Reading Text := do
  match ← next with
  | .name t => return t
  | _ => failure

/-! ## Repetition -/

/-- Reads at most `n` times, as often as possible. -/
def atMost {α : Type} (p : Reading α) : Nat → Reading (List α)
  | 0 => pure []
  | n + 1 => do
    match ← optional p with
    | none => return []
    | some a => return a :: (← atMost p n)

/-- Reads as often as possible. -/
def many {α : Type} (p : Reading α) : Reading (List α) := do
  within 1 (atMost p (← get).length)

/-- Reads once or more often. -/
def several {α : Type} (p : Reading α) : Reading (List α) := do
  match ← many p with
  | [] => failure
  | found => return found

/-- Reads once or more often, with commas between. -/
def separated {α : Type} (p : Reading α) : Reading (List α) :=
  within 1 do
    let first ← p
    return first :: (← many (symbol "," *> p))

end Reading

end CrateSync.Action
