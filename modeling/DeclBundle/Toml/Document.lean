import DeclBundle.Value.Basic

namespace DeclBundle.Toml

inductive Origin where
  | passed
  | header
  | dotted
deriving DecidableEq, Repr

/-- Whether dotted keys lead through a table, when so many keys follow: a table that headers have passed
is no place to set a key in. -/
def Origin.admits (following : Nat) : Origin → Bool
  | .dotted => true
  | .passed => 1 < following
  | .header => false

inductive Node where
  | value (v : Value)
  | table (origin : Origin) (fields : List (String × Node))
  | tables (items : List (List (String × Node)))
deriving Inhabited

abbrev Fields := List (String × Node)

namespace Fields

def find? (fields : Fields) (key : String) : Option Node := fields.lookup key

def put (key : String) (node : Node) : Fields → Fields
  | [] => [(key, node)]
  | (k, n) :: rest => if k = key then (key, node) :: rest else (k, n) :: put key node rest

def assign? (v : Value) : List String → Fields → Option Fields
  | [], _ => none
  | [key], fields => if (fields.find? key).isSome then none else some (fields ++ [(key, .value v)])
  | key :: rest, fields =>
    match fields.find? key with
    | none => (assign? v rest []).map fun inner => fields ++ [(key, .table .dotted inner)]
    | some (.table origin inner) =>
      if Origin.admits rest.length origin then
        (assign? v rest inner).map fun inner => fields.put key (.table origin inner)
      else none
    | some _ => none

/-- Changes the table that a path leads to, where `change` gets what is at the last key. -/
def descend? (change : Option Node → Option Node) : List String → Fields → Option Fields
  | [], _ => none
  | [key], fields => (change (fields.find? key)).map fun node => fields.put key node
  | key :: rest, fields =>
    match fields.find? key with
    | none => (descend? change rest []).map fun inner => fields ++ [(key, .table .passed inner)]
    | some (.table origin inner) => (descend? change rest inner).map fun inner =>
      fields.put key (.table origin inner)
    | some (.tables (last :: earlier)) => (descend? change rest last).map fun last =>
      fields.put key (.tables (last :: earlier))
    | some _ => none

def openTable? (path : List String) (fields : Fields) : Option Fields :=
  descend? (fun
    | none => some (.table .header [])
    | some (.table .passed inner) => some (.table .header inner)
    | some _ => none) path fields

def openItem? (path : List String) (fields : Fields) : Option Fields :=
  descend? (fun
    | none => some (.tables [[]])
    | some (.tables items) => some (.tables ([] :: items))
    | some _ => none) path fields

def assignAt? (path key : List String) (v : Value) (fields : Fields) : Option Fields :=
  match path with
  | [] => assign? v key fields
  | path => descend? (fun
    | some (.table origin inner) => (assign? v key inner).map (.table origin)
    | some (.tables (last :: earlier)) => (assign? v key last).map fun last => .tables (last :: earlier)
    | _ => none) path fields

end Fields

mutual

def Node.toValue : Node → Value
  | .value v => v
  | .table _ fields => Value.tableOf (fieldValues fields)
  | .tables items => .list (itemValues items).reverse

def fieldValues : List (String × Node) → List (String × Value)
  | [] => []
  | (key, node) :: rest => (key, node.toValue) :: fieldValues rest

def itemValues : List (List (String × Node)) → List Value
  | [] => []
  | fields :: rest => Value.tableOf (fieldValues fields) :: itemValues rest

end

end DeclBundle.Toml
