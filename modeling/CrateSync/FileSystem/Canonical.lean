/-
# Canonical paths

The absolute path without links to what a path leads to.  Unlike a look-up this goes on behind names
that lead nowhere, which are kept as they are written, and follows any number of links, as long as
they are not nested too deep.  A link that is met again while its own target is being resolved leads
round in a circle; the rest of the path then stays unresolved.
-/
import CrateSync.FileSystem.Lookup

namespace CrateSync

/-- The links met so far, with the path that each leads to, or nothing while that is being found
out. -/
abbrev SeenLinks := List (Path × Option Path)

/-- How far resolving a path got: to its end, to a circle of links, to where links are nested too
deep, or to a name that nothing can have. -/
inductive Trace where
  | resolved (p : Path)
  | circular (p : Path)
  | tooDeep
  | unnameable
  deriving DecidableEq, Repr

namespace Path

/-- The path that two dots lead to from a path without links; a relative path may have to climb out
of its start. -/
def up (p : Path) : Path :=
  if p.isAbsolute then ⟨p.anchor, p.names.dropLast⟩
  else
    match p.names.getLast? with
    | none => p.child ['.', '.']
    | some last => if last = ['.', '.'] then p.child ['.', '.'] else p.parent

/-- The path that leads on along names that stay unresolved; an empty name in front of others comes
from a slash at the start of what is left, which starts anew. -/
def withRest (p : Path) : List Text → Path
  | [] :: name :: rest => ⟨anchorOf (Text.joinWith ['/'] ([] :: name :: rest)), name :: rest⟩
  | rest => ⟨p.anchor, p.names ++ rest⟩

/-- Whether nothing can have a name, because the character that ends names is part of it. -/
def isUnnameable (name : Text) : Bool :=
  name.contains '\x00'

/-- The names of a path from the root, with dots taken out as they are written. -/
def collapse (names : List Text) : Location :=
  names.foldl
    (fun loc name =>
      if name = [] ∨ name = ['.'] then loc
      else if name = ['.', '.'] then loc.dropLast
      else loc ++ [name])
    []

end Path

namespace FileSystem

/-- The target of the link that a path ends in, if it does. -/
def linkTarget? (fs : FileSystem) (p : Path) : Option Text :=
  match fs.lookup .stay p with
  | .found _ (.link target) => some target
  | _ => none

/-- Resolves names from a resolved path on, with `enter` for the target of a link. -/
def traceWith (fs : FileSystem) (enter : SeenLinks → Path → List Text → Trace × SeenLinks) :
    SeenLinks → Path → List Text → Trace × SeenLinks
  | seen, p, [] => (.resolved p, seen)
  | seen, p, name :: rest =>
    if name = [] ∨ name = ['.'] then traceWith fs enter seen p rest
    else if name = ['.', '.'] then traceWith fs enter seen p.up rest
    else if Path.isUnnameable name then (.unnameable, seen)
    else
      let next := p.child name
      match fs.linkTarget? next with
      | none => traceWith fs enter seen next rest
      | some target =>
        match seen.lookup next with
        | some (some known) => traceWith fs enter seen known rest
        | some none => (.circular (next.withRest rest), seen)
        | none =>
          let start := if target.head? = some '/' then .absolute [] else p
          match enter ((next, none) :: seen) start (Text.splitOn '/' target) with
          | (.circular stuck, seen) => (.circular (stuck.withRest rest), seen)
          | (.tooDeep, seen) => (.tooDeep, seen)
          | (.unnameable, seen) => (.unnameable, seen)
          | (.resolved known, seen) => traceWith fs enter ((next, some known) :: seen) known rest

/-- Resolves names through links nested at most `n` deep. -/
def trace (fs : FileSystem) : Nat → SeenLinks → Path → List Text → Trace × SeenLinks
  | 0, seen, p, names => traceWith fs (fun seen _ _ => (.tooDeep, seen)) seen p names
  | n + 1, seen, p, names => traceWith fs (trace fs n) seen p names

/-- How deep links may be nested. -/
def nestingLimit : Nat :=
  980

/-- The absolute form of a path, with dots taken out as they are written. -/
def absolutePath (fs : FileSystem) (p : Path) : Path :=
  if p.isAbsolute then ⟨p.anchor, Path.collapse p.names⟩
  else .absolute (Path.collapse (fs.cwd ++ p.names))

/-- Why a path has no canonical form. -/
inductive LinkError where
  /-- Links lead round in a circle; this is what is left of the path then. -/
  | circle (p : Path)
  /-- Links are nested too deep. -/
  | tooDeep
  /-- Nothing can have one of the names. -/
  | unnameable
  deriving DecidableEq, Repr

/-- The wording of an error. -/
def LinkError.message : LinkError → Text
  | .circle p => "Symlink loop from " ++ Text.quoted p.toText
  | .tooDeep => "maximum recursion depth exceeded"
  | .unnameable => "embedded null byte"

/-- The path itself, unless following it meets too many links or a name that nothing can have. -/
def checkLinks (fs : FileSystem) (p : Path) : Except LinkError Path :=
  if p.names.any Path.isUnnameable then .error .unnameable
  else
    match fs.lookup .follow p with
    | .fault .tooManyLinks => .error (.circle p)
    | _ => .ok p

/-- The canonical path of what a path leads to. -/
def canonical (fs : FileSystem) (p : Path) : Except LinkError Path :=
  let start : Path := if p.isAbsolute then .absolute [] else ⟨.relative, []⟩
  match (fs.trace nestingLimit [] start p.names).1 with
  | .resolved q => fs.checkLinks (fs.absolutePath q)
  | .circular q => fs.checkLinks (fs.absolutePath q)
  | .tooDeep => .error .tooDeep
  | .unnameable => .error .unnameable

end FileSystem

end CrateSync
