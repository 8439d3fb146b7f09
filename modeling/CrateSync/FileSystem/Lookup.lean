/-
# Looking up a path

Walking along a path, name by name, from its start.  Two dots lead to the parent of the directory
reached so far.  A link on the way is replaced by its target; one at the end is replaced too, unless
the link itself is asked for.  At most forty links are followed in one walk.
-/
import CrateSync.FileSystem.Basic

namespace CrateSync

/-- What a path leads to. -/
inductive Lookup where
  /-- A node at a location. -/
  | found (loc : Location) (node : Node)
  /-- A location where nothing stands, in a directory that exists. -/
  | vacant (loc : Location)
  | fault (e : Errno)
  deriving DecidableEq, Repr

/-- What a path is looked up for, on which the treatment of its last name depends. -/
inductive Purpose where
  /-- To see the node that it leads to. -/
  | follow
  /-- To see the link, if it ends in one. -/
  | stay
  /-- To write a file, which may have to be made; then a last name with a slash behind it, as a
  link may have, names a directory. -/
  | write
  deriving DecidableEq, Repr

/-- The largest number of octets of a name. -/
def maxNameOctets : Nat := 255

/-- The number of octets from which on a path is too long. -/
def pathOctetsLimit : Nat := 4096

/-- The largest number of links that one walk follows. -/
def maxLinks : Nat := 40

namespace FileSystem

/-- Where the target of a link starts, seen from the directory that holds the link. -/
def targetStart (loc : Location) (target : Text) : Location :=
  if target.head? = some '/' then [] else loc

/-- Walks along names from a directory, with `enter` for the rest of the walk behind a link. -/
def walkWith (fs : FileSystem) (purpose : Purpose) (enter : Location → List Text → Lookup) :
    Location → List Text → Lookup
  | loc, [] => .found loc .directory
  | loc, name :: rest =>
    if name = [] ∨ name = ['.'] then walkWith fs purpose enter loc rest
    else if name = ['.', '.'] then walkWith fs purpose enter loc.dropLast rest
    else if purpose = .write ∧ rest ≠ [] ∧ rest.all List.isEmpty then .fault .isDirectory
    else if maxNameOctets < (Text.encode name).length then .fault .nameTooLong
    else
      let place := loc ++ [name]
      match fs.node? place with
      | none => if rest = [] then .vacant place else .fault .noEntry
      | some (.file content) =>
        if rest = [] then .found place (.file content) else .fault .notDirectory
      | some .directory => walkWith fs purpose enter place rest
      | some (.link target) =>
        if rest = [] ∧ purpose = .stay then .found place (.link target)
        else enter (targetStart loc target) (Text.splitOn '/' target ++ rest)

/-- Walks along names from a directory through at most `n` links. -/
def walk (fs : FileSystem) (purpose : Purpose) : Nat → Location → List Text → Lookup
  | 0, loc, names => walkWith fs purpose (fun _ _ => .fault .tooManyLinks) loc names
  | n + 1, loc, names => walkWith fs purpose (walk fs purpose n) loc names

/-- Looks up a path. -/
def lookup (fs : FileSystem) (purpose : Purpose) (p : Path) : Lookup :=
  if pathOctetsLimit ≤ (Text.encode p.toText).length then .fault .nameTooLong
  else walk fs purpose maxLinks (if p.isAbsolute then [] else fs.cwd) p.names

end FileSystem

end CrateSync
