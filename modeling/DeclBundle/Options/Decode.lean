import DeclBundle.Options.Basic
import DeclBundle.Value.Schema

namespace DeclBundle.ProjectOverrides

def properName? (key : String) : Option String :=
  [("tsconfig-file-path", "tsConfigFilePath"),
    ("skip-adding-files-from-tsconfig", "skipAddingFilesFromTsConfig"),
    ("compiler-options", "compilerOptions")].findSome? fun (name, spelling) =>
    if key = name || key = spelling then some name else none

def optionsOf : Value → Except SchemaError CompilerOptions
  | .table fields => .ok (CompilerOptions.ofFields (Value.finiteFields fields))
  | _ => .error .wrongType

def set (name : String) (v : Value) (o : ProjectOverrides) : Except SchemaError ProjectOverrides :=
  if name = "tsconfig-file-path" then
    (v.optional Value.asText).map fun path => { o with tsconfigPath := path.map Path.mk }
  else if name = "skip-adding-files-from-tsconfig" then
    (v.optional Value.asBoolean).map fun skip => { o with skipListedFiles := skip }
  else (optionsOf v).map fun options => { o with options := options }

def ofItems (exact : Bool) (items : List Value) : Except SchemaError ProjectOverrides := do
  let names := ["tsconfig-file-path", "skip-adding-files-from-tsconfig", "compiler-options"]
  let read ← (names.zip items).foldlM (fun o (name, v) => set name v o) {}
  if exact && items.length > names.length then throw .wrongType
  return read

def ofValue (exact : Bool) : Value → Except SchemaError ProjectOverrides
  | .table fields => Value.readFields properName? set [] {} fields
  | .list items => ofItems exact items
  | _ => .error .wrongType

end DeclBundle.ProjectOverrides
