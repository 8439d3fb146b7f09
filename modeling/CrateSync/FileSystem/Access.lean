/-
# Working with files and directories

The operations that the synchronisation needs: asking what a path leads to, reading and writing
files, copying them, and making directories.  All of them follow links.  An operation that fails
says why and about which path; only making a chain of directories may have done a part of its work
by then.
-/
import CrateSync.FileSystem.Lookup

namespace CrateSync.FileSystem

/-! ## Asking -/

/-- The location and the node that a path leads to. -/
def status (fs : FileSystem) (p : Path) : Except Errno (Location × Node) :=
  match fs.lookup .follow p with
  | .found loc node => .ok (loc, node)
  | .vacant _ => .error .noEntry
  | .fault e => .error e

/-- Whether a path leads to a node of a kind.  A path that leads nowhere does not; a path that
cannot be looked up at all is an error. -/
def leadsTo (kind : Node → Bool) (fs : FileSystem) (p : Path) : Except SystemError Bool :=
  match fs.status p with
  | .ok (_, node) => .ok (kind node)
  | .error .noEntry => .ok false
  | .error .notDirectory => .ok false
  | .error .tooManyLinks => .ok false
  | .error e => .error (e.about p)

/-- Whether a path leads to anything. -/
def exists? (fs : FileSystem) (p : Path) : Except SystemError Bool :=
  fs.leadsTo (fun _ => true) p

/-- Whether a path leads to a file. -/
def isFile (fs : FileSystem) (p : Path) : Except SystemError Bool :=
  fs.leadsTo Node.isFile p

/-- Whether a path leads to a directory. -/
def isDirectory (fs : FileSystem) (p : Path) : Except SystemError Bool :=
  fs.leadsTo Node.isDirectory p

/-! ## Reading and writing -/

/-- The content of the file that a path leads to. -/
def read (fs : FileSystem) (p : Path) : Except SystemError Octets :=
  match fs.status p with
  | .ok (_, .file content) => .ok content
  | .ok (_, _) => .error (Errno.isDirectory.about p)
  | .error e => .error (e.about p)

/-- The location of the file that writing to a path fills: a file that exists, or a place in an
existing directory. -/
def writeLocation (fs : FileSystem) (p : Path) : Except SystemError Location :=
  match fs.lookup .write p with
  | .found loc (.file _) => .ok loc
  | .found _ _ => .error (Errno.isDirectory.about p)
  | .vacant loc => .ok loc
  | .fault e => .error (e.about p)

/-- Fills the file that a path leads to, which is made if it is missing. -/
def write (fs : FileSystem) (p : Path) (content : Octets) : Except SystemError FileSystem :=
  (fs.writeLocation p).map fun loc => fs.put loc (.file content)

/-! ## Copying -/

/-- How copying a file fails. -/
inductive CopyError where
  | system (e : SystemError)
  /-- Both paths lead to one file. -/
  | sameFile (source destination : Path)
  /-- The destination is a link to a missing directory. -/
  | noDirectory (destination : Path)
  deriving DecidableEq, Repr

/-- A path as messages show it among other things than paths. -/
def shownPath (p : Path) : Text :=
  "PosixPath(" ++ Text.quoted p.toText ++ ")"

/-- The wording of a failed copy. -/
def CopyError.message : CopyError → Text
  | .system e => e.message
  | .sameFile source destination =>
    shownPath source ++ " and " ++ shownPath destination ++ " are the same file"
  | .noDirectory destination => "Directory does not exist: " ++ destination.toText

/-- Whether two paths lead to one node. -/
def sameNode (fs : FileSystem) (p q : Path) : Bool :=
  match fs.status p, fs.status q with
  | .ok (loc, _), .ok (other, _) => loc == other
  | _, _ => false

/-- Copies the file that one path leads to into the file that another path leads to. -/
def copy (fs : FileSystem) (source destination : Path) : Except CopyError FileSystem :=
  if fs.sameNode source destination then .error (.sameFile source destination)
  else
    match fs.read source with
    | .error e => .error (.system e)
    | .ok content =>
      match fs.write destination content with
      | .ok fs => .ok fs
      | .error e =>
        if e.number = Errno.isDirectory.number && (fs.status destination).toOption.isNone then
          .error (.noDirectory destination)
        else .error (.system e)

/-! ## Making directories -/

/-- Makes one directory, in a directory that exists. -/
def makeDirectory (fs : FileSystem) (p : Path) : Except Errno FileSystem :=
  match fs.lookup .stay p with
  | .found _ _ => .error .fileExists
  | .vacant loc => .ok (fs.put loc .directory)
  | .fault e => .error e

/-- Judges a directory that could not be made: all is well if it is there already. -/
def acceptDirectory (fs : FileSystem) (p : Path) (e : Errno) : Except SystemError Unit :=
  match fs.isDirectory p with
  | .ok true => .ok ()
  | .ok false => .error (e.about p)
  | .error e => .error e

/-- Makes a directory whose parent has been seen to. -/
def makeLast (fs : FileSystem) (p : Path) : FileSystem × Except SystemError Unit :=
  match fs.makeDirectory p with
  | .ok fs => (fs, .ok ())
  | .error .noEntry => (fs, .error (Errno.noEntry.about p))
  | .error e => (fs, fs.acceptDirectory p e)

/-- Makes the directory whose names are given last one first, and the missing ones above it. -/
def makeDirectoriesAux (anchor : Anchor) :
    List Text → FileSystem → FileSystem × Except SystemError Unit
  | [], fs => fs.makeLast ⟨anchor, []⟩
  | name :: above, fs =>
    let p : Path := ⟨anchor, (name :: above).reverse⟩
    match fs.makeDirectory p with
    | .ok fs => (fs, .ok ())
    | .error .noEntry =>
      match makeDirectoriesAux anchor above fs with
      | (fs, .ok ()) => fs.makeLast p
      | (fs, .error e) => (fs, .error e)
    | .error e => (fs, fs.acceptDirectory p e)

/-- Makes a directory and the missing ones above it; directories that exist are accepted. -/
def makeDirectories (fs : FileSystem) (p : Path) : FileSystem × Except SystemError Unit :=
  makeDirectoriesAux p.anchor p.names.reverse fs

end CrateSync.FileSystem
