/-
# Paths

A path as it is written: where it starts and the names that lead on from there.  Writing drops
empty names and names that are a single dot; two dots stay, because what they lead to depends on the
links on the way.
-/
import CrateSync.Text.Quoted

namespace CrateSync

/-- Where a path starts.  A path that begins with exactly two slashes keeps both. -/
inductive Anchor where
  | relative
  | root
  | doubleRoot
  deriving DecidableEq, Repr

/-- A path. -/
structure Path where
  anchor : Anchor
  names : List Text
  deriving DecidableEq, Repr

namespace Path

/-! ## Writing and reading -/

/-- The slashes at the start of a path. -/
def anchorOf : Text → Anchor
  | '/' :: '/' :: '/' :: _ => .root
  | '/' :: '/' :: _ => .doubleRoot
  | '/' :: _ => .root
  | _ => .relative

/-- The path that a text writes. -/
def ofText (t : Text) : Path :=
  ⟨anchorOf t, (Text.splitOn '/' t).filter fun name => name != [] && name != ['.']⟩

/-- The text that writes a path. -/
def toText (p : Path) : Text :=
  let names := Text.joinWith ['/'] p.names
  match p.anchor with
  | .relative => if p.names.isEmpty then ['.'] else names
  | .root => '/' :: names
  | .doubleRoot => '/' :: '/' :: names

/-- The absolute path with these names. -/
def absolute (names : List Text) : Path :=
  ⟨.root, names⟩

/-- Whether a path does not depend on a working directory. -/
def isAbsolute (p : Path) : Bool :=
  p.anchor != .relative

/-! ## Leading on -/

/-- The path that leads on from `p` along `q`; an absolute `q` starts anew. -/
def append (p q : Path) : Path :=
  if q.isAbsolute then q else ⟨p.anchor, p.names ++ q.names⟩

/-- The path one name further. -/
def child (p : Path) (name : Text) : Path :=
  ⟨p.anchor, p.names ++ [name]⟩

/-- The path that leads on from `p` along a written path. -/
def along (p : Path) (t : Text) : Path :=
  p.append (ofText t)

/-- The path without its last name. -/
def parent (p : Path) : Path :=
  ⟨p.anchor, p.names.dropLast⟩

@[simp] theorem append_names_of_relative {p q : Path} (h : q.anchor = .relative) :
    p.append q = ⟨p.anchor, p.names ++ q.names⟩ := by
  simp [append, isAbsolute, h]

@[simp] theorem parent_child (p : Path) (name : Text) : (p.child name).parent = p := by
  simp [child, parent]

end Path

end CrateSync
