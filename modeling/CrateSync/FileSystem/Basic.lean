/-
# File systems

A file system is a set of nodes, each at a location: the names that lead to it from the root
without passing a link.  The root itself is always a directory.  A file system is looked at from a
working directory, where relative paths start.
-/
import CrateSync.Text.Utf8
import CrateSync.FileSystem.Error

namespace CrateSync

/-- What stands at a location. -/
inductive Node where
  | file (content : Octets)
  | directory
  | link (target : Text)
  deriving DecidableEq, Repr

/-- Whether a node is a file. -/
def Node.isFile : Node → Bool
  | .file _ => true
  | _ => false

/-- Whether a node is a directory. -/
def Node.isDirectory : Node → Bool
  | .directory => true
  | _ => false

/-- The names from the root to a node. -/
abbrev Location := List Text

/-- Nodes by location, and the working directory. -/
structure FileSystem where
  entries : List (Location × Node)
  cwd : Location
  deriving DecidableEq, Repr

namespace FileSystem

/-- The node of the first entry for a location. -/
def nodeIn? : List (Location × Node) → Location → Option Node
  | [], _ => none
  | (place, node) :: rest, loc => if place = loc then some node else nodeIn? rest loc

/-- What stands at a location. -/
def node? (fs : FileSystem) (loc : Location) : Option Node :=
  if loc = [] then some .directory else nodeIn? fs.entries loc

/-- The entries with the node at a location replaced, or added if there is none. -/
def putIn : List (Location × Node) → Location → Node → List (Location × Node)
  | [], loc, node => [(loc, node)]
  | (place, old) :: rest, loc, node =>
    if place = loc then (place, node) :: rest else (place, old) :: putIn rest loc node

/-- The file system with a node put at a location. -/
def put (fs : FileSystem) (loc : Location) (node : Node) : FileSystem :=
  { fs with entries := putIn fs.entries loc node }

/-- The file system without the node at a location and all nodes below it. -/
def erase (fs : FileSystem) (loc : Location) : FileSystem :=
  { fs with entries := fs.entries.filter fun entry => !loc.isPrefixOf entry.1 }

/-! ## What an update does to the nodes -/

theorem nodeIn?_putIn (entries : List (Location × Node)) (loc other : Location) (node : Node) :
    nodeIn? (putIn entries loc node) other
      = if other = loc then some node else nodeIn? entries other := by
  induction entries with
  | nil =>
    by_cases h : other = loc
    · simp [putIn, nodeIn?, h]
    · simp [putIn, nodeIn?, h, Ne.symm h]
  | cons entry rest ih =>
    obtain ⟨place, old⟩ := entry
    by_cases hp : place = loc
    · subst hp
      by_cases h : other = place
      · simp [putIn, nodeIn?, h]
      · simp [putIn, nodeIn?, h, Ne.symm h]
    · by_cases h : place = other
      · subst h
        simp [putIn, nodeIn?, hp]
      · simp [putIn, nodeIn?, hp, h, ih]

/-- **An update changes the node at its location and no other.** -/
theorem node?_put (fs : FileSystem) {loc : Location} (other : Location) (node : Node)
    (h : loc ≠ []) :
    (fs.put loc node).node? other = if other = loc then some node else fs.node? other := by
  unfold node? put
  by_cases hr : other = []
  · subst hr
    simp [Ne.symm h]
  · simp [hr, nodeIn?_putIn]

theorem putIn_putIn (entries : List (Location × Node)) (loc : Location) (node node' : Node) :
    putIn (putIn entries loc node) loc node' = putIn entries loc node' := by
  induction entries with
  | nil => simp [putIn]
  | cons entry rest ih =>
    obtain ⟨place, old⟩ := entry
    by_cases h : place = loc
    · simp [putIn, h]
    · simp [putIn, h, ih]

/-- Of two updates at one location the last one counts. -/
@[simp] theorem put_put (fs : FileSystem) (loc : Location) (node node' : Node) :
    (fs.put loc node).put loc node' = fs.put loc node' :=
  congrArg (FileSystem.mk · fs.cwd) (putIn_putIn fs.entries loc node node')

@[simp] theorem cwd_put (fs : FileSystem) (loc : Location) (node : Node) :
    (fs.put loc node).cwd = fs.cwd := rfl

end FileSystem

end CrateSync
