import DeclBundle.Value.Schema

namespace DeclBundle

inductive FilterPattern where
  | glob (text : String)
  | regex (text : String)
deriving DecidableEq, Repr

inductive FilterSpec where
  | one (pattern : FilterPattern)
  | many (patterns : List FilterPattern)
deriving DecidableEq, Repr

namespace FilterPattern

def ofValue? : Value → Option FilterPattern
  | .text s => some (.glob s)
  | .table fields =>
    match fields.lookup "regex" with
    | some (.text s) => some (.regex s)
    | _ => none
  | _ => none

def toValue : FilterPattern → Value
  | glob s => .text s
  | regex s => .table [("regex", .text s)]

end FilterPattern

namespace FilterSpec

def patterns : FilterSpec → List FilterPattern
  | one p => [p]
  | many ps => ps

def defaultInclude : FilterSpec := many [.glob "**/*.vue", .glob "**/*.ts", .glob "**/*.tsx"]

def defaultExclude : FilterSpec := one (.glob "**/node_modules/**")

def ofGlobs (globs : List String) : FilterSpec := many (globs.map .glob)

def ofValue (v : Value) : Except SchemaError FilterSpec :=
  match v with
  | .list items =>
    match items.mapM FilterPattern.ofValue? with
    | some ps => .ok (many ps)
    | none => .error .noPattern
  | v =>
    match FilterPattern.ofValue? v with
    | some p => .ok (one p)
    | none => .error .noPattern

def toValue : FilterSpec → Value
  | one p => p.toValue
  | many ps => .list (ps.map FilterPattern.toValue)

end FilterSpec

end DeclBundle
