/-
# Command lines

The commands and their options.  The name of the command comes first, with at most two dashes alone
in front of it.  An option with a value takes it behind an equals sign or as the next word, whatever
that word is; of repeated options the last one counts; no command takes words that are not options.
The value of an option that names a path must be one that may be given as a path.
-/
import CrateSync.Config.Settings

namespace CrateSync

/-- The form in which a command prints its result. -/
inductive OutputFormat where
  | table
  | json
  | markdown
  deriving DecidableEq, Repr

/-- The format with a name. -/
def OutputFormat.ofName? (t : Text) : Option OutputFormat :=
  if t = "table" then some .table
  else if t = "json" then some .json
  else if t = "md" then some .markdown
  else none

/-- A command with its options. -/
inductive Command where
  | sync (request : Settings.Request) (format : OutputFormat)
  | version (format : OutputFormat)
  | runTests
  deriving DecidableEq, Repr

namespace Command

/-! ## Options -/

/-- An option as it is given: a switch, or a name with a value. -/
inductive Given where
  | switch
  | value (name v : Text)
  deriving DecidableEq, Repr

/-- The options of a command. -/
structure OptionSet where
  /-- The options that take a value. -/
  valued : List Text
  /-- Whether the command has the switch that allows overwriting. -/
  hasSwitch : Bool

/-- The long form of the switch. -/
def longSwitch : Text := "--force"

/-- Whether a word is the switch: in its long form, or in its short form once or more. -/
def isSwitch (word : Text) : Bool :=
  word = longSwitch ||
    match word with
    | '-' :: 'f' :: rest => rest.all (· = 'f')
    | _ => false

/-- The value behind the first equals sign of a word. -/
def attached? (word : Text) : Option Text :=
  (Text.cutAt? ['='] word).map fun (_, found) => found.drop 1

/-- The part of a word in front of its first equals sign. -/
def optionName (word : Text) : Text :=
  word.takeWhile (· != '=')

/-- The options that words give; none if they give anything else.  Two dashes alone may only end
them. -/
def readOptions (o : OptionSet) : List Text → Option (List Given)
  | [] => some []
  | word :: rest =>
    if word = ['-', '-'] then (if rest.isEmpty then some [] else none)
    else if o.valued.contains (optionName word) then
      match attached? word with
      | some v => (readOptions o rest).map (.value (optionName word) v :: ·)
      | none =>
        match rest with
        | [] => none
        | v :: rest => (readOptions o rest).map (.value word v :: ·)
    else if o.hasSwitch && isSwitch word then (readOptions o rest).map (.switch :: ·)
    else none

/-- The last value given for an option. -/
def lastValue? (name : Text) (given : List Given) : Option Text :=
  (given.filterMap fun
    | .value n v => if n = name then some v else none
    | .switch => none).getLast?

/-- The format asked for, which is the table if none is; none if there is no such format. -/
def format? (given : List Given) : Option OutputFormat :=
  match lastValue? "--format" given with
  | none => some .table
  | some name => OutputFormat.ofName? name

/-! ## Commands -/

/-- The options of the synchronisation. -/
def syncOptions : OptionSet :=
  ⟨["--private", "--name", "--template", "--format"], true⟩

/-- What options ask of the synchronisation. -/
def requestOf (given : List Given) : Settings.Request where
  force := given.contains .switch
  proprietaryOwner := lastValue? "--private" given
  permissiveOwner := lastValue? "--name" given
  template := (lastValue? "--template" given).map Path.ofText

/-- The command with a name and the words behind it; none if they are not well formed, or if the path
among them is one that may not be given. -/
def ofWords (admits : Text → Bool) (name : Text) (words : List Text) : Option Command :=
  if name = "sync" then do
    let given ← readOptions syncOptions words
    let format ← format? given
    guard ((lastValue? "--template" given).all admits)
    return .sync (requestOf given) format
  else if name = "version" then do
    let given ← readOptions ⟨["--format"], false⟩ words
    return .version (← format? given)
  else if name = "ci-tests" then do
    let _ ← readOptions ⟨[], false⟩ words
    return .runTests
  else none

/-- The command of a command line; none if the command line is not well formed. -/
def parse (admits : Text → Bool) : List Text → Option Command
  | [] => none
  | name :: words =>
    if name = ['-', '-'] then
      match words with
      | [] => none
      | name :: words => ofWords admits name words
    else ofWords admits name words

end Command

end CrateSync
