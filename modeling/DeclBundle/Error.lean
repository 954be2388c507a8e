import DeclBundle.Files.Error
import DeclBundle.Module.Basic
import DeclBundle.Value.Schema

namespace DeclBundle

inductive FileTask where
  | readConfig (path : Path)
  | readSource (path : Path)
  | readInput (path : Path)
  | makeStaged (directory : Path)
  | stage (path : Path)
  | writeTsconfig (path : Path)
  | run (command : Path)
  | readEmitted (path : Path)
  | makeDirectory (directory : Path)
  | writeDeclaration (path : Path)
  | load (path : Path)
deriving DecidableEq, Repr

def FileTask.text : FileTask → String
  | readConfig p => "failed to read config file " ++ p.text
  | readSource p => "failed to read source file " ++ p.text
  | readInput p => "failed to read " ++ p.text
  | makeStaged p => "failed to create " ++ p.text
  | stage p => "failed to stage " ++ p.text
  | writeTsconfig p => "failed to write " ++ p.text
  | run p => "failed to run " ++ p.text
  | readEmitted p => "failed to read emitted " ++ p.text
  | makeDirectory p => "failed to create directory " ++ p.text
  | writeDeclaration p => "failed to write declaration " ++ p.text
  | load p => "no such file " ++ p.text

inductive Stage where
  | options
  | content
  | path
  | diagnostics
  | emit
  | emitted
deriving DecidableEq, Repr

def Stage.label : Stage → String
  | options => "options"
  | content => "content"
  | path => "path"
  | diagnostics => "diagnostics"
  | emit => "emit"
  | emitted => "emitted"

inductive Error where
  | file (task : FileTask) (cause : FileError)
  | staging (path : Path) (cause : FileError)
  | invalidGlob (pattern : String)
  | invalidRegex (pattern : String)
  | malformedConfig (cause : SchemaError)
  | inConfig (path : Path) (cause : Error)
  | malformedOverrides (cause : SchemaError)
  | invalidBoolean (name text : String)
  | noOutputTarget
  | noOutputOption
  | noEngine (cause : Error)
  | scripted (stage : Stage)
  | noSource (path : Path)
  | notAFile (path : Path)
  | outOfRange
  | tooManySources (cause : Error)
  | compilerExit (command : Path) (status : Nat) (said : String)
  | notEmitted (id : SourceId)
  | unknownSource (id : SourceId)
  | noInput (path : Path)
  | sinkRefused (path : Path)
deriving Repr

/-- How much an error's text tells: the kinds of causes alone, or what the system says. -/
inductive Wording where
  | kinds
  | system
deriving DecidableEq, Repr

def FileError.text : Wording → FileError → String
  | .kinds, e => e.name
  | .system, e => e.systemText

def stagingText (path : Path) (cause : FileError) : String :=
  cause.systemText ++ " at path \"" ++ path.text ++ "\""

namespace Error

def text (w : Wording) : Error → String
  | file task cause => task.text ++ ": " ++ cause.text w
  | staging path cause =>
    "failed to create staging directory: " ++ match w with
      | .kinds => cause.name
      | .system => stagingText path cause ++ ": " ++ cause.systemText
  | invalidGlob pattern => "invalid glob pattern `" ++ pattern ++ "`"
  | invalidRegex pattern => "invalid regular expression `" ++ pattern ++ "`"
  | malformedConfig cause =>
    "invalid dtsemit configuration" ++
      if w = .system || cause.message = "" then "" else ": " ++ cause.message
  | inConfig path cause => "in " ++ path.text ++ ": " ++ cause.text w
  | malformedOverrides cause => cause.message
  | invalidBoolean name text =>
    "invalid value for " ++ name ++ ": expected a boolean, found `" ++ text ++ "`"
  | noOutputTarget => "output options name neither an output file nor a directory"
  | noOutputOption => "either --out-dir or --file must be given"
  | noEngine cause => "failed to create compiler engine: " ++ cause.text w
  | scripted stage => "scripted failure: " ++ stage.label
  | noSource path => "no such file " ++ path.text
  | notAFile path => "source " ++ path.text ++ " is not a file"
  | outOfRange => "out of range integral type conversion attempted"
  | tooManySources cause => "too many registered sources: " ++ cause.text w
  | compilerExit command status said =>
    command.text ++ " exited with exit status: " ++ toString status ++ ": " ++ said
  | notEmitted id => "outputs requested for " ++ id.label ++ " before emission"
  | unknownSource id => "unknown " ++ id.label
  | noInput path => "input " ++ path.text ++ " does not exist"
  | sinkRefused path => "sink refused " ++ path.text

inductive Kind where
  | io
  | regex
  | glob
  | toml
  | json
  | other
deriving DecidableEq, Repr

def Kind.label : Kind → String
  | io => "io"
  | regex => "regex"
  | glob => "glob"
  | toml => "toml"
  | json => "json"
  | other => "other"

def kind : Error → Kind
  | file _ _ => .io
  | staging _ _ => .io
  | invalidGlob _ => .glob
  | invalidRegex _ => .regex
  | malformedConfig _ => .toml
  | inConfig _ cause => cause.kind
  | malformedOverrides _ => .json
  | noEngine cause => cause.kind
  | tooManySources cause => cause.kind
  | _ => .other

end Error

end DeclBundle
