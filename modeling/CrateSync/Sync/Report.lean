/-
# Reports of a synchronisation

What was done to each file, in the order in which it was done, and how often each outcome occurs.
-/
import CrateSync.Text.Basic

namespace CrateSync.Sync

/-- What was done to a file. -/
inductive Outcome where
  | created
  | overwritten
  | updated
  | unchanged
  | skipped
  | failed
  deriving DecidableEq, Repr

namespace Outcome

/-- The name of an outcome. -/
def name : Outcome → Text
  | created => "created"
  | overwritten => "overwritten"
  | updated => "updated"
  | unchanged => "unchanged"
  | skipped => "skipped"
  | failed => "failed"

/-- All outcomes, in the order in which they are counted. -/
def all : List Outcome :=
  [created, overwritten, updated, unchanged, skipped, failed]

end Outcome

/-- What was done to the file with a name relative to the crate, and a remark that may be empty. -/
structure Action where
  path : Text
  outcome : Outcome
  detail : Text
  deriving DecidableEq, Repr

/-- The actions of a run in order. -/
abbrev Report := List Action

namespace Report

/-- How many actions have an outcome. -/
def count (r : Report) (o : Outcome) : Nat :=
  r.countP fun action => action.outcome = o

/-- Whether an action failed. -/
def hasFailed (r : Report) : Bool :=
  r.any fun action => action.outcome = .failed

/-- The number of actions for each outcome. -/
def summary (r : Report) : List (Outcome × Nat) :=
  Outcome.all.map fun o => (o, r.count o)

end Report

end CrateSync.Sync
