import DeclBundle.Decimal.Binary64

namespace DeclBundle

/-- A number: integers are exact, all else is rounded to 64 bits. Only some formats can write a number
that is not finite. -/
inductive Number where
  | integer (value : Int)
  | double (value : Binary64)
  | nonFinite
deriving DecidableEq, Repr

inductive Value where
  | null
  | boolean (value : Bool)
  | number (value : Number)
  | text (value : String)
  | list (items : List Value)
  | table (fields : List (String × Value))
deriving Repr, Inhabited

namespace Value

def setField (key : String) (v : Value) : List (String × Value) → List (String × Value)
  | [] => [(key, v)]
  | (k, w) :: rest =>
    if key < k then (key, v) :: (k, w) :: rest
    else if key = k then (key, v) :: rest
    else (k, w) :: setField key v rest

/-- The fields in the order of their keys; of equal keys the last one stays. -/
def tableOf (fields : List (String × Value)) : Value :=
  .table (fields.foldl (fun sorted (k, v) => setField k v sorted) [])

def field? (key : String) : Value → Option Value
  | .table fields => fields.lookup key
  | _ => none

mutual

def finite : Value → Value
  | .number .nonFinite => .null
  | .list items => .list (finiteAll items)
  | .table fields => .table (finiteFields fields)
  | v => v

def finiteAll : List Value → List Value
  | [] => []
  | v :: rest => v.finite :: finiteAll rest

def finiteFields : List (String × Value) → List (String × Value)
  | [] => []
  | (k, v) :: rest => (k, v.finite) :: finiteFields rest

end

mutual

def fits : Value → Bool
  | .number (.integer i) => -(2 ^ 63) ≤ i && i < 2 ^ 64
  | .list items => allFit items
  | .table fields => fieldsFit fields
  | _ => true

def allFit : List Value → Bool
  | [] => true
  | v :: rest => v.fits && allFit rest

def fieldsFit : List (String × Value) → Bool
  | [] => true
  | (_, v) :: rest => v.fits && fieldsFit rest

end

end Value

end DeclBundle
