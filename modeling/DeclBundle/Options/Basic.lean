import DeclBundle.Path.Location
import DeclBundle.Value.Basic
import Std.Data.ExtTreeMap

namespace DeclBundle

abbrev CompilerOptions := Std.ExtTreeMap String Value compare

def CompilerOptions.ofFields (fields : List (String × Value)) : CompilerOptions :=
  Std.ExtTreeMap.ofList fields compare

structure ProjectOverrides where
  tsconfigPath : Option Path := none
  skipListedFiles : Option Bool := none
  options : CompilerOptions := ∅

namespace ProjectOverrides

/-- `upper` written over `lower`: field by field, and option by option. -/
def merge (lower upper : ProjectOverrides) : ProjectOverrides where
  tsconfigPath := upper.tsconfigPath.or lower.tsconfigPath
  skipListedFiles := upper.skipListedFiles.or lower.skipListedFiles
  options := lower.options ∪ upper.options

end ProjectOverrides

structure ProjectOptions where
  root : Path
  tsconfigPath : Path
  skipListedFiles : Bool
  options : CompilerOptions

def protectedOptions : List String := ["declaration", "emitDeclarationOnly", "noEmitOnError"]

def CompilerOptions.protect (options : CompilerOptions) : CompilerOptions :=
  protectedOptions.foldl (fun o key => o.insert key (.boolean true)) options

def Value.isTrue : Value → Bool
  | .boolean b => b
  | _ => false

/-- The protected options that were set to something other than `true`. -/
def CompilerOptions.conflicts (options : CompilerOptions) : List (String × Value) :=
  protectedOptions.filterMap fun key =>
    match options[key]? with
    | some v => if v.isTrue then none else some (key, v)
    | none => none

namespace ProjectOptions

def ofOverrides (root : Path) (overrides : ProjectOverrides) : ProjectOptions where
  root := root
  tsconfigPath := match overrides.tsconfigPath with
    | some path => root.resolve path
    | none => root.join "tsconfig.json"
  skipListedFiles := overrides.skipListedFiles.getD true
  options := overrides.options.protect

def toOverrides (o : ProjectOptions) : ProjectOverrides where
  tsconfigPath := some o.tsconfigPath
  skipListedFiles := some o.skipListedFiles
  options := o.options

end ProjectOptions

end DeclBundle
