import DeclBundle.Error
import DeclBundle.Filter.Spec
import DeclBundle.Options.Decode
import DeclBundle.Toml.Parser

namespace DeclBundle

structure ConfigLayer where
  includes : Option FilterSpec := none
  excludes : Option FilterSpec := none
  root : Option Path := none
  project : Option ProjectOverrides := none
  cleanNames : Option Bool := none

namespace ConfigLayer

def fieldNames : List String := ["include", "exclude", "root", "project", "clean-vue-file-name"]

/-- A filter; integers beyond 64 bits are refused before anything else. -/
def filterOf (v : Value) : Except SchemaError FilterSpec :=
  if v.fits then FilterSpec.ofValue v else .error .wrongType

def projectOf (v : Value) : Except SchemaError ProjectOverrides :=
  if v.fits then ProjectOverrides.ofValue false v
  else (ProjectOverrides.ofValue false v).bind fun _ => .error .wrongType

def set (name : String) (v : Value) (l : ConfigLayer) : Except SchemaError ConfigLayer :=
  if name = "include" then (filterOf v).map fun spec => { l with includes := some spec }
  else if name = "exclude" then (filterOf v).map fun spec => { l with excludes := some spec }
  else if name = "root" then v.asText.map fun root => { l with root := some ⟨root⟩ }
  else if name = "project" then (projectOf v).map fun project => { l with project := some project }
  else v.asBoolean.map fun clean => { l with cleanNames := some clean }

def ofFields (fields : List (String × Value)) : Except SchemaError ConfigLayer :=
  Value.readFields (fun key => if key ∈ fieldNames then some key else none) set [] {} fields

def ofText (source : String) : Except Error ConfigLayer :=
  match Toml.parse? source with
  | none => .error (.malformedConfig .unreadable)
  | some fields =>
    match ofFields fields with
    | .ok layer => .ok layer
    | .error e => .error (.malformedConfig e)

end ConfigLayer

end DeclBundle
