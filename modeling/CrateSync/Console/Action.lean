/-
# Actions

A tag whose name begins with an at sign does not stand for a style but for something to be done,
such as `[@press=open('notes')]`.  What follows the equals sign are its arguments: literal values,
which may have the name of what is to be done in front of parentheses.

* `check` tells whether the arguments of an action are well formed.
-/
import CrateSync.Console.Action.Grammar
import CrateSync.Text.Blank
import CrateSync.Text.Quoted

namespace CrateSync.Action

/-- Why the arguments of an action are refused. -/
inductive Fault where
  /-- The part of the arguments that should be values cannot be read. -/
  | unreadable (part arguments : Text) (m : Mistake)
  /-- It is nested too deeply. -/
  | exhausted (arguments : Text)
  /-- It can be read, but has no value. -/
  | valueless (arguments : Text) (r : Refusal)
  deriving DecidableEq, Repr

/-- The wording of a fault. -/
def Fault.message : Fault → Text
  | .unreadable part arguments m =>
    "error parsing " ++ Text.quoted part ++ " in " ++ Text.quoted arguments ++ "; " ++ m.message
  | .exhausted arguments => "error parsing " ++ Text.quoted arguments ++ "; "
  | .valueless arguments r => "error parsing " ++ Text.quoted arguments ++ "; " ++ r.message

/-- The part of the arguments that has to be values: without a name in front of parentheses, and
nothing in parentheses if there is a name alone. -/
def valuePart (arguments : Text) : Text :=
  let t := Text.trim arguments
  let behindName := t.dropWhile fun c => Text.isWordPart c || c = '.'
  if behindName.isEmpty then "()"
  else if behindName.head? = some '(' && 1 < behindName.length && behindName.getLast? = some ')'
      && !behindName.contains '\n' then
    behindName
  else t

/-- Checks the arguments of an action; it need not have any. -/
def check (arguments : Text) : Except Fault Unit :=
  if arguments.isEmpty then .ok ()
  else
    let part := valuePart arguments
    match read part with
    | .error .exhausted => .error (.exhausted arguments)
    | .error (.plain m) => .error (.unreadable part arguments m)
    | .error (.final m) => .error (.unreadable part arguments m)
    | .ok t =>
      match t.value with
      | .error r => .error (.valueless arguments r)
      | .ok _ => .ok ()

end CrateSync.Action
