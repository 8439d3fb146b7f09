/-
# The program

The outer layer: it takes a picture of the files that a command may ask for, runs the command on the
picture, and carries the changes over to the files.  It starts no other program; a command that
would have to be started is refused, and the root of the repository is the working directory.
-/
import CrateSync.Calendar
import CrateSync.Command.Run

namespace CrateSync.Program

/-! ## Taking the picture -/

/-- The text of a string. -/
def text (s : String) : Text := s.toList

/-- The string of a text. -/
def string (t : Text) : String := String.ofList t

/-- The string that names a location. -/
def locationString (loc : Location) : String :=
  string (Path.absolute loc).toText

/-- What stands at a location.  The target of a link is given as the path that it leads to in the
end; a link that leads nowhere is given as a link to itself. -/
def nodeAt? (loc : Location) : IO (Option Node) := do
  let p := System.mkFilePath [locationString loc]
  try
    match (← p.symlinkMetadata).type with
    | .dir => return some .directory
    | .symlink =>
      let target ← try pure (← IO.FS.realPath p).toString catch _ => pure (locationString loc)
      return some (.link (text target))
    | _ => return some (.file (← IO.FS.readBinFile p).toList)
  catch _ => return none

/-- Adds the nodes on the way along names from a location to the picture. -/
def observe (fs : FileSystem) : Location → List Text → IO FileSystem
  | _, [] => return fs
  | loc, name :: rest => do
    if name = ['.', '.'] then observe fs loc.dropLast rest
    else
      let place := loc ++ [name]
      match ← nodeAt? place with
      | none => return fs
      | some node =>
        let fs := fs.put place node
        match node with
        | .link target =>
          let real := (Path.ofText target).names
          let fs ← observeReal fs [] real
          if real = place then return fs else observe fs real rest
        | _ => observe fs place rest
where
  /-- Adds the nodes on a way without links. -/
  observeReal (fs : FileSystem) : Location → List Text → IO FileSystem
    | _, [] => return fs
    | loc, name :: rest => do
      let place := loc ++ [name]
      match ← nodeAt? place with
      | none => return fs
      | some node => observeReal (fs.put place node) place rest

/-- Adds the nodes on the way along a path to the picture. -/
def observePath (fs : FileSystem) (p : Path) : IO FileSystem :=
  if p.isAbsolute then observe fs [] p.names else observe fs [] (fs.cwd ++ p.names)

/-- The files of a crate that commands ask for. -/
def crateFiles : List Text :=
  Sync.configFiles ++ [Sync.workflowFile, Sync.developmentDocs, Sync.readmeFile, Sync.libraryRoot,
    Sync.programRoot, licenseFile, Sync.manifestFile, TestRun.settingsFile]

/-- The files of a template that commands ask for. -/
def templateFiles : List Text :=
  Sync.configFiles ++ [Sync.workflowFile, Sync.templateDocs, Sync.headerTemplate]

/-- Adds files below a directory to the picture. -/
def observeAll (fs : FileSystem) (directory : Path) (files : List Text) : IO FileSystem :=
  files.foldlM (fun fs file => observePath fs (directory.along file)) fs

/-! ## Running -/

/-- The variables that commands ask for. -/
def variableNames : List String :=
  ["HOME", "XDG_CONFIG_HOME", string Settings.templateVariable, string ownerVariable]

/-- The variables that are set. -/
def environment : IO Environment :=
  variableNames.filterMapM fun name => do
    return (← IO.getEnv name).map fun value => (text name, text value)

/-- The users that the system knows and their home directories, as the system's list of users has them:
a line for each, with the name in the first and the directory in the sixth of its fields. -/
def users : IO (List (Text × Text)) := do
  let lines ← try IO.FS.lines (System.mkFilePath ["/etc/passwd"]) catch _ => pure #[]
  return lines.toList.filterMap fun line =>
    match Text.splitOn ':' (text line) with
    | name :: _ :: _ :: _ :: _ :: directory :: _ => some (name, directory)
    | _ => none

/-- The current year, by the time at which this process began. -/
def currentYear : IO Int := do
  let now ← (System.mkFilePath ["/proc/self/stat"]).metadata
  return Calendar.yearOfSecond now.modified.sec

/-- The picture for a command. -/
def picture (env : Environment) (users : List (Text × Text)) (command : Command) : IO FileSystem := do
  let cwd := (Path.ofText (text (← IO.currentDir).toString)).names
  let fs ← observeAll ⟨[], cwd⟩ (.absolute cwd) crateFiles
  match command with
  | .sync request _ =>
    match Settings.namedTemplate (env.value "HOME") env request.template with
    | .ok named =>
      let host : Host := { fs, home := env.value "HOME", users, unreadable := [] }
      observeAll fs ((named.expandHome? host).getD named) templateFiles
    | .error _ => return fs
  | _ => return fs

/-- Carries the changes of the picture over to the files. -/
def save (before after : FileSystem) : IO Unit :=
  after.entries.forM fun (loc, node) => do
    if before.node? loc ≠ some node then
      match node with
      | .file content => IO.FS.writeBinFile (locationString loc) ⟨content.toArray⟩
      | .directory => IO.FS.createDir (locationString loc)
      | .link _ => return ()

/-- Runs a command and returns its exit code. -/
def execute (command : Command) : IO UInt32 := do
  let env ← environment
  let users ← users
  let fs ← picture env users command
  let c : Command.Circumstances :=
    { host := { fs, home := env.value "HOME", users, unreadable := [] }
      env
      year := ← currentYear
      rootAnswer := none
      launch := .refused ⟨38, "Function not implemented", "cargo"⟩ }
  let (after, ending) := Command.run c command
  save fs after
  IO.print (string ending.printed.out)
  IO.eprint (string ending.printed.err)
  match ending.exit with
  | .ok code => return UInt32.ofNat (code % 256).toNat
  | .error crash =>
    IO.eprintln (string crash.message)
    return 1

end CrateSync.Program

/-- Runs the command that the command line names. -/
def main (args : List String) : IO UInt32 := do
  let admits (t : CrateSync.Text) : Bool := !CrateSync.Path.isUnnameable t
  match CrateSync.Command.parse admits (args.map CrateSync.Program.text) with
  | some command => CrateSync.Program.execute command
  | none =>
    IO.eprintln "usage: (sync [-f] [--private NAME] [--name NAME] [--template DIR] | version | ci-tests)"
    return 2
