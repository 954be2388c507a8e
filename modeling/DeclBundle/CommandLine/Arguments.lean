import DeclBundle.Path.Basic
import DeclBundle.Text.Search

namespace DeclBundle

structure Arguments where
  inputs : List Path := []
  root : Option Path := none
  outputDirectory : Option Path := none
  outputFile : Option Path := none
  includes : List String := []
  excludes : List String := []
  cleanNames : Bool := false
  config : Option Path := none
  dryRun : Bool := false
  verbosity : Nat := 0

namespace Arguments

inductive Stop where
  | information
  | usage
deriving DecidableEq, Repr

inductive ValueOption where
  | root
  | outputDirectory
  | outputFile
  | includes
  | excludes
  | config
deriving DecidableEq, Repr

inductive Switch where
  | cleanNames
  | dryRun
  | verbose
  | information
deriving DecidableEq, Repr

def longOption? (name : List Char) : Option ValueOption :=
  [("root", .root), ("out-dir", .outputDirectory), ("file", .outputFile), ("include", .includes),
    ("exclude", .excludes), ("config", .config)].lookup (String.ofList name)

def longSwitch? (name : List Char) : Option Switch :=
  [("clean-vue-file-name", .cleanNames), ("dry-run", .dryRun), ("verbose", .verbose),
    ("help", .information), ("version", .information)].lookup (String.ofList name)

def shortOption? (c : Char) : Option ValueOption :=
  [('o', .outputDirectory), ('c', .config)].lookup c

def shortSwitch? (c : Char) : Option Switch :=
  [('v', .verbose), ('h', .information), ('V', .information)].lookup c

/-- A path that may be given once and is not empty. -/
def once (old : Option Path) (value : List Char) : Except Stop (Option Path) :=
  if old.isSome || value.isEmpty then .error .usage else .ok (some ⟨String.ofList value⟩)

def setOption (o : ValueOption) (value : List Char) (a : Arguments) : Except Stop Arguments :=
  match o with
  | .root => (once a.root value).map fun p => { a with root := p }
  | .outputDirectory => (once a.outputDirectory value).map fun p => { a with outputDirectory := p }
  | .outputFile => (once a.outputFile value).map fun p => { a with outputFile := p }
  | .config => (once a.config value).map fun p => { a with config := p }
  | .includes => .ok { a with includes := a.includes ++ [String.ofList value] }
  | .excludes => .ok { a with excludes := a.excludes ++ [String.ofList value] }

def setSwitch (s : Switch) (a : Arguments) : Except Stop Arguments :=
  match s with
  | .cleanNames => if a.cleanNames then .error .usage else .ok { a with cleanNames := true }
  | .dryRun => if a.dryRun then .error .usage else .ok { a with dryRun := true }
  | .verbose => .ok { a with verbosity := a.verbosity + 1 }
  | .information => .error .information

def addInput (value : List Char) (a : Arguments) : Except Stop Arguments :=
  if value.isEmpty then .error .usage
  else .ok { a with inputs := a.inputs ++ [⟨String.ofList value⟩] }

def isValue : List Char → Bool
  | '-' :: _ :: _ => false
  | _ => true

/-- What an argument still needs after it was read. -/
inductive Need where
  | nothing
  | value (o : ValueOption)

def readLetters (a : Arguments) : List Char → Except Stop (Arguments × Need)
  | [] => .ok (a, .nothing)
  | c :: rest =>
    match shortSwitch? c, shortOption? c with
    | some s, _ =>
      match setSwitch s a with
      | .ok a => readLetters a rest
      | .error e => .error e
    | none, some o =>
      match rest with
      | [] => .ok (a, .value o)
      | '=' :: value => (setOption o value a).map (·, .nothing)
      | value => (setOption o value a).map (·, .nothing)
    | none, none => .error .usage

def readWord (a : Arguments) (word : List Char) : Except Stop (Arguments × Need) :=
  let name := word.takeWhile (· != '=')
  match longOption? name, longSwitch? name, word.dropWhile (· != '=') with
  | some o, _, [] => .ok (a, .value o)
  | some o, _, _ :: value => (setOption o value a).map (·, .nothing)
  | none, some s, [] => (setSwitch s a).map (·, .nothing)
  | none, _, _ => .error .usage

def readOne (a : Arguments) (argument : List Char) : Except Stop (Arguments × Need) :=
  match argument with
  | '-' :: '-' :: word => readWord a word
  | '-' :: c :: letters => readLetters a (c :: letters)
  | value => (addInput value a).map (·, .nothing)

def readInputs (a : Arguments) (arguments : List (List Char)) : Except Stop Arguments :=
  arguments.foldlM (fun a value => addInput value a) a

def read (a : Arguments) : Need → List (List Char) → Except Stop Arguments
  | .nothing, [] => .ok a
  | .value _, [] => .error .usage
  | .value o, value :: rest =>
    if !isValue value then .error .usage
    else match setOption o value a with
      | .ok a => read a .nothing rest
      | .error e => .error e
  | .nothing, argument :: rest =>
    if argument = ['-', '-'] then readInputs a rest
    else match readOne a argument with
      | .ok (a, need) => read a need rest
      | .error e => .error e

def ofList (arguments : List String) : Except Stop Arguments :=
  match read {} .nothing (arguments.map String.toList) with
  | .error e => .error e
  | .ok a =>
    if a.inputs.isEmpty || (a.outputDirectory.isSome && a.outputFile.isSome) then .error .usage
    else .ok a

end Arguments

end DeclBundle
