/-
# Patterns

What pieces of a text may look like, and where such pieces stand.  A pattern is tried at a place and
goes on from there in one way after the other, until one of them leads to its end; so the order of
its ways says which of several pieces is found.  The pieces of those parts of a pattern that are
marked are what is found.
-/
import CrateSync.Text.Basic

namespace CrateSync

/-- A pattern. -/
inductive Pattern where
  /-- One character of some kind. -/
  | one (accepts : Char → Bool)
  /-- No character, at a place between two that are of some kind; at an end of the text there is
  none. -/
  | between (accepts : Option Char → Option Char → Bool)
  | both (p q : Pattern)
  /-- One of two patterns, the first one if it leads to the end. -/
  | either (p q : Pattern)
  /-- A pattern `least` times and up to `more` times beyond that, or any number of times; first as
  often as possible if it is greedy, else as seldom as possible. -/
  | repeated (greedy : Bool) (least : Nat) (more : Option Nat) (p : Pattern)
  /-- A pattern whose piece is to be found. -/
  | marked (p : Pattern)

namespace Pattern

/-! ## Building patterns -/

/-- No character, anywhere. -/
def empty : Pattern :=
  between fun _ _ => true

/-- Patterns behind each other. -/
def sequence (ps : List Pattern) : Pattern :=
  ps.foldr both empty

/-- One of several patterns, the first one that leads to the end. -/
def choice (ps : List Pattern) : Pattern :=
  ps.foldr either (one fun _ => false)

/-- A certain character. -/
def char (c : Char) : Pattern :=
  one (· = c)

/-- One of certain characters. -/
def oneOf (t : Text) : Pattern :=
  one t.contains

/-- A certain text. -/
def text (t : Text) : Pattern :=
  sequence (t.map char)

/-- A pattern any number of times, as often as possible. -/
def many : Pattern → Pattern :=
  repeated true 0 none

/-- A pattern at least once, as often as possible. -/
def several : Pattern → Pattern :=
  repeated true 1 none

/-- A pattern, if possible. -/
def optional : Pattern → Pattern :=
  repeated true 0 (some 1)

/-- A pattern a certain number of times. -/
def times (n : Nat) : Pattern → Pattern :=
  repeated true n (some 0)

/-- A pattern at least once and at most `n + 1` times. -/
def upTo (n : Nat) : Pattern → Pattern :=
  repeated true 1 (some n)

/-! ## Trying patterns -/

/-- A place in a text and the pieces that were found up to there. -/
structure Place where
  position : Nat
  /-- The character before the place. -/
  before : Option Char
  /-- The text behind the place. -/
  rest : Text
  found : List Extent
  deriving DecidableEq, Repr

/-- The place at the start of a text. -/
def Place.start (t : Text) : Place :=
  ⟨0, none, t, []⟩

/-- What goes on from a place: with the place where it ends, or not at all. -/
abbrev Way := Place → Option Place

/-- Goes a certain number of times on, and then another way. -/
def exactly (once : Place → Way → Option Place) (next : Way) : Nat → Way
  | 0, here => next here
  | n + 1, here => once here (exactly once next n)

/-- Goes up to a number of times on, and then another way. -/
def atMost (greedy : Bool) (once : Place → Way → Option Place) (next : Way) : Nat → Way
  | 0, here => next here
  | n + 1, here =>
    if greedy then once here (atMost greedy once next n) <|> next here
    else next here <|> once here (atMost greedy once next n)

/-- Tries a pattern at a place, and then the way that goes on behind its piece. -/
def tryAt : Pattern → Place → Way → Option Place
  | one accepts, here, next =>
    match here.rest with
    | c :: rest =>
      if accepts c then next { here with position := here.position + 1, before := some c, rest }
      else none
    | [] => none
  | between accepts, here, next =>
    if accepts here.before here.rest.head? then next here else none
  | both p q, here, next => tryAt p here fun there => tryAt q there next
  | either p q, here, next => tryAt p here next <|> tryAt q here next
  | repeated greedy least more p, here, next =>
    let once (here : Place) (next : Way) : Option Place := tryAt p here next
    let rest : Way := fun there =>
      atMost greedy once next (more.getD there.rest.length) there
    exactly once rest least here
  | marked p, here, next =>
    tryAt p here fun there =>
      next { there with found := ⟨here.position, there.position⟩ :: there.found }

/-! ## Finding pieces -/

/-- The extents that a pattern finds from a place on, in at most `n` steps.  Behind a piece the search
goes on at its end. -/
def findFrom (p : Pattern) : Nat → Place → List Extent
  | 0, _ => []
  | n + 1, here =>
    match p.tryAt here some with
    | some there => there.found ++ findFrom p n { there with found := [] }
    | none =>
      match here.rest with
      | [] => []
      | c :: rest => findFrom p n ⟨here.position + 1, some c, rest, []⟩

/-- The extents that a pattern finds in a text, without those that hold nothing.  Each step but the last
passes a character, as long as the pattern has no piece without one. -/
def findAll (p : Pattern) (t : Text) : List Extent :=
  (findFrom p (t.length + 1) (.start t)).filter fun e => !e.isEmpty

end Pattern

end CrateSync
