import DeclBundle.Value.Basic

namespace DeclBundle

inductive SchemaError where
  | wrongType
  | unknownField (name : String)
  | duplicateField (name : String)
  | noPattern
  | unreadable
deriving DecidableEq, Repr

namespace SchemaError

def message : SchemaError → String
  | wrongType => ""
  | unknownField name => "unknown field `" ++ name ++ "`"
  | duplicateField name => "duplicate field `" ++ name ++ "`"
  | noPattern => "data did not match any variant of untagged enum FilterSpec"
  | unreadable => ""

end SchemaError

def Value.optional (read : Value → Except SchemaError α) : Value → Except SchemaError (Option α)
  | .null => .ok none
  | v => (read v).map some

def Value.asText : Value → Except SchemaError String
  | .text s => .ok s
  | _ => .error .wrongType

def Value.asBoolean : Value → Except SchemaError Bool
  | .boolean b => .ok b
  | _ => .error .wrongType

/-- Reads the fields of a table in their order, into a record that begins as `start`. A field's name is
looked up among the names that it may be written with; `seen` are the proper names read so far. -/
def Value.readFields (properName? : String → Option String)
    (set : String → Value → α → Except SchemaError α) (seen : List String) (record : α) :
    List (String × Value) → Except SchemaError α
  | [] => .ok record
  | (key, v) :: rest =>
    match properName? key with
    | none => .error (.unknownField key)
    | some name =>
      if name ∈ seen then .error (.duplicateField name)
      else match set name v record with
        | .error e => .error e
        | .ok record => readFields properName? set (name :: seen) record rest

end DeclBundle
