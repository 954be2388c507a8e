import DeclBundle.Decimal.Shortest
import DeclBundle.Value.Basic

namespace DeclBundle.Json

/-- A double has a point or an exponent: positional notation from 1e-5 up to below 1e16, and elsewhere
one digit before the point and a signed exponent. -/
def writeDouble (x : Binary64) : String :=
  let (digits, exponent) := x.shortest
  let text := toString digits
  let size : Int := text.length
  let point := size + exponent
  let zeros (n : Int) : String := String.ofList (List.replicate n.toNat '0')
  let body :=
    if digits = 0 then "0.0"
    else if 0 ≤ exponent && point ≤ 16 then text ++ zeros exponent ++ ".0"
    else if 0 < point && point ≤ 16 then
      String.ofList (text.toList.take point.toNat) ++ "." ++ String.ofList (text.toList.drop point.toNat)
    else if -5 < point && point ≤ 0 then "0." ++ zeros (-point) ++ text
    else
      let shown := if point - 1 < 0 then toString (point - 1) else "+" ++ toString (point - 1)
      let rest := String.ofList (text.toList.drop 1)
      String.ofList (text.toList.take 1) ++ (if rest = "" then "" else "." ++ rest) ++ "e" ++ shown
  if x.negative then "-" ++ body else body

def writeNumber : Number → String
  | .integer i => toString i
  | .double x => writeDouble x
  | .nonFinite => "null"

def hexDigit (n : Nat) : Char := Nat.digitChar n

def escape (c : Char) : List Char :=
  if c = '"' then ['\\', '"']
  else if c = '\\' then ['\\', '\\']
  else if c = '\n' then ['\\', 'n']
  else if c = '\r' then ['\\', 'r']
  else if c = '\t' then ['\\', 't']
  else if c.toNat = 8 then ['\\', 'b']
  else if c.toNat = 12 then ['\\', 'f']
  else if c.toNat < 32 then
    ['\\', 'u', '0', '0', hexDigit (c.toNat / 16), hexDigit (c.toNat % 16)]
  else [c]

def quote (s : String) : String :=
  "\"" ++ String.ofList (s.toList.flatMap escape) ++ "\""

mutual

def compact : Value → String
  | .null => "null"
  | .boolean b => if b then "true" else "false"
  | .number n => writeNumber n
  | .text s => quote s
  | .list items => "[" ++ ",".intercalate (compactItems items) ++ "]"
  | .table fields => "\x7b" ++ ",".intercalate (compactFields fields) ++ "\x7d"

def compactItems : List Value → List String
  | [] => []
  | v :: rest => compact v :: compactItems rest

def compactFields : List (String × Value) → List String
  | [] => []
  | (k, v) :: rest => (quote k ++ ":" ++ compact v) :: compactFields rest

end

def newline (depth : Nat) : String := "\n" ++ String.ofList (List.replicate (2 * depth) ' ')

mutual

def indented (depth : Nat) : Value → String
  | .list [] => "[]"
  | .table [] => "\x7b\x7d"
  | .list items =>
    "[" ++ ",".intercalate (indentedItems (depth + 1) items) ++ newline depth ++ "]"
  | .table fields =>
    "\x7b" ++ ",".intercalate (indentedFields (depth + 1) fields) ++ newline depth ++ "\x7d"
  | .null => "null"
  | .boolean b => if b then "true" else "false"
  | .number n => writeNumber n
  | .text s => quote s

def indentedItems (depth : Nat) : List Value → List String
  | [] => []
  | v :: rest => (newline depth ++ indented depth v) :: indentedItems depth rest

def indentedFields (depth : Nat) : List (String × Value) → List String
  | [] => []
  | (k, v) :: rest =>
    (newline depth ++ quote k ++ ": " ++ indented depth v) :: indentedFields depth rest

end

end DeclBundle.Json
