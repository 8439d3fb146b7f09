/-
# The surroundings of a run

The variables of the process environment, and what a run sees of the machine: the file system, the
home directory, the users that the system knows, and the directories that it has no right to read.
-/
import CrateSync.FileSystem.Canonical

namespace CrateSync

/-- The variables of a process environment and their values. -/
abbrev Environment := List (Text × Text)

/-- The value of a variable; a variable that is not set has the empty value. -/
def Environment.value (env : Environment) (name : Text) : Text :=
  (env.lookup name).getD []

/-- What a run sees of the machine. -/
structure Host where
  fs : FileSystem
  /-- The home directory, as the environment of the process has it. -/
  home : Text
  /-- The users that the system knows, each with the home directory that it has for them. -/
  users : List (Text × Text)
  /-- The directories that may not be read. -/
  unreadable : List Text
  deriving Repr

/-- Whether a text may be given as a path: no name can hold the character that ends names, and what the
text leads to must not be one of the directories that may not be read. -/
def Host.admits (h : Host) (t : Text) : Bool :=
  !Path.isUnnameable t &&
    match h.fs.lookup .follow (.ofText t) with
    | .found _ _ => !h.unreadable.contains t
    | _ => true

/-- The home directory that a tilde stands for, if it can be told. -/
def homeDirectory? (home : Text) : Option Path :=
  match Text.dropRightWhile (· = '/') home with
  | [] => some (.absolute [])
  | '~' :: _ => none
  | directory => some (.ofText directory)

/-- The directory that a tilde stands for with the name of a user behind it: with no name it is the home
directory of the process, else that of the user. -/
def Host.homeOf? (host : Host) (user : Text) : Option Path :=
  if user.isEmpty then homeDirectory? host.home
  else if Path.isUnnameable user then none
  else (host.users.lookup user).bind homeDirectory?

/-- A path with the tilde that it may begin with, and the user behind that, replaced by the home
directory. -/
def Path.expandHome? (host : Host) (p : Path) : Option Path :=
  match p.anchor, p.names with
  | .relative, ('~' :: user) :: rest => (host.homeOf? user).map fun h => h.append ⟨.relative, rest⟩
  | _, _ => some p

end CrateSync
