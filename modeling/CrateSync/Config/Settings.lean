/-
# The settings of a synchronisation

Which crate is brought up to date from which template directory, whether files may be overwritten,
and under which license.  The template directory is named by the command line, by a variable or by
a default below the configuration directory of the user, and has to be a readable directory.
-/
import CrateSync.FileSystem.Access
import CrateSync.License.Choice

namespace CrateSync

/-- The settings of a synchronisation. -/
structure Settings where
  target : Path
  template : Path
  force : Bool
  license : Option License
  deriving DecidableEq, Repr

namespace Settings

/-! ## What can be wrong -/

/-- Why the settings make no sense. -/
inductive Fault where
  /-- Owners for both kinds of license are named. -/
  | twoLicenses
  | noTemplate (directory : Path)
  | unreadableTemplate (directory : Path)
  deriving DecidableEq, Repr

/-- The variable that names the template directory. -/
def templateVariable : Text := "CRATEKIT_TEMPLATE_DIR"

/-- The wording of a fault. -/
def Fault.message : Fault → Text
  | .twoLicenses => "--private and --name are mutually exclusive; pass only one."
  | .noTemplate directory =>
    "Template directory not found: " ++ directory.toText ++ ". Pass --template or set "
      ++ templateVariable ++ "."
  | .unreadableTemplate directory =>
    "Template directory is not readable: " ++ directory.toText

/-- How settings cannot be made: they have a fault, or a path cannot be made out. -/
inductive Error where
  | fault (f : Fault)
  | unknownHome
  | links (e : FileSystem.LinkError)
  | system (e : SystemError)
  deriving DecidableEq, Repr

/-- The wording of an error. -/
def Error.message : Error → Text
  | .fault f => f.message
  | .unknownHome => "Could not determine home directory."
  | .links e => e.message
  | .system e => e.message

/-! ## The template directory -/

/-- The template directory if nothing names one. -/
def defaultTemplate (home : Text) (env : Environment) : Except Error Path := do
  let configHome ←
    if (env.value "XDG_CONFIG_HOME").isEmpty then
      match homeDirectory? home with
      | some directory => pure (directory.child ".config")
      | none => .error .unknownHome
    else pure (Path.ofText (env.value "XDG_CONFIG_HOME"))
  return configHome.along "cratekit/template"

/-- The template directory as it is named, in the order of precedence. -/
def namedTemplate (home : Text) (env : Environment) (explicit : Option Path) : Except Error Path :=
  match explicit with
  | some p => .ok p
  | none =>
    match nonBlank? (env.value templateVariable) with
    | some t => .ok (.ofText t)
    | none => defaultTemplate home env

/-- The canonical path of a path as it is named. -/
def canonical (fs : FileSystem) (p : Path) : Except Error Path :=
  (fs.canonical p).mapError .links

/-- The canonical path of the template directory, which has to be a readable directory. -/
def templateDirectory (host : Host) (env : Environment) (explicit : Option Path) :
    Except Error Path := do
  let named ← namedTemplate host.home env explicit
  match named.expandHome? host with
  | none =>
    .error (if named.names.head?.any Path.isUnnameable then .links .unnameable else .unknownHome)
  | some expanded =>
    let directory ← canonical host.fs expanded
    match host.fs.isDirectory directory with
    | .error e => .error (.system e)
    | .ok false => .error (.fault (.noTemplate directory))
    | .ok true =>
      if host.unreadable.contains directory.toText then
        .error (.fault (.unreadableTemplate directory))
      else return directory

/-! ## All settings -/

/-- What the command line says about a synchronisation. -/
structure Request where
  force : Bool
  proprietaryOwner : Option Text
  permissiveOwner : Option Text
  template : Option Path
  deriving DecidableEq, Repr

/-- The settings for a request; the license is chosen first, then the crate is looked for, then
the template. -/
def ofRequest (host : Host) (env : Environment) (target : Path) (r : Request) :
    Except Error Settings := do
  match License.choose? r.proprietaryOwner r.permissiveOwner env with
  | none => .error (.fault .twoLicenses)
  | some license =>
    let target ← canonical host.fs target
    let template ← templateDirectory host env r.template
    return { target, template, force := r.force, license }

end Settings

end CrateSync
