import DeclBundle.Toml.Document
import DeclBundle.Toml.Scalar
import DeclBundle.Toml.Text

namespace DeclBundle.Toml

def comment? (s : List Char) : Option (List Char) :=
  match s with
  | '#' :: s =>
    let inside (c : Char) : Bool := c != '\n' && c != '\r'
    if (s.takeWhile inside).any isControl then none else some (s.dropWhile inside)
  | s => some s

def gap? : Nat → List Char → Option (List Char)
  | 0, _ => none
  | fuel + 1, s =>
    match s.dropWhile isBlank with
    | '\n' :: s => gap? fuel s
    | '\r' :: '\n' :: s => gap? fuel s
    | '#' :: s => (comment? ('#' :: s)).bind (gap? fuel)
    | s => some s

def lineEnd? (s : List Char) : Option (List Char) :=
  match comment? (s.dropWhile isBlank) with
  | some [] => some []
  | some ('\n' :: s) => some s
  | some ('\r' :: '\n' :: s) => some s
  | _ => none

def isScalarChar (c : Char) : Bool :=
  c.isAlphanum || c = '+' || c = '-' || c = '_' || c = '.' || c = ':'

def scalarAt? (s : List Char) : Option (Value × List Char) :=
  let word := s.takeWhile isScalarChar
  let rest := s.dropWhile isScalarChar
  match date? word, rest with
  | some (_, []), ' ' :: c :: after =>
    if c.isDigit then
      let time := (c :: after).takeWhile isScalarChar
      (scalar? (word ++ ' ' :: time)).map (·, (c :: after).dropWhile isScalarChar)
    else (scalar? word).map (·, rest)
  | _, _ => (scalar? word).map (·, rest)

def depthLimit : Nat := 80

mutual

def value? : Nat → Nat → List Char → Option (Value × List Char)
  | 0, _, _ => none
  | fuel + 1, depth, s =>
    match s with
    | '"' :: _ => (text? s).map fun (t, s) => (.text t, s)
    | '\'' :: _ => (text? s).map fun (t, s) => (.text t, s)
    | '[' :: s => if depth = 0 then none else items? fuel (depth - 1) [] s
    | '\x7b' :: s => if depth = 0 then none else fields? fuel (depth - 1) [] s
    | s => scalarAt? s

def items? : Nat → Nat → List Value → List Char → Option (Value × List Char)
  | 0, _, _, _ => none
  | fuel + 1, depth, acc, s => do
    match ← gap? (s.length + 1) s with
    | ']' :: s => return (.list acc.reverse, s)
    | s =>
      let (v, s) ← value? fuel depth s
      match ← gap? (s.length + 1) s with
      | ',' :: s => items? fuel depth (v :: acc) s
      | ']' :: s => return (.list (v :: acc).reverse, s)
      | _ => none

def fields? : Nat → Nat → Fields → List Char → Option (Value × List Char)
  | 0, _, _, _ => none
  | fuel + 1, depth, fields, s => do
    match ← gap? (s.length + 1) s with
    | '\x7d' :: s => return (Value.tableOf (fieldValues fields), s)
    | s =>
      let (key, s) ← key? (s.length + 1) s
      let '=' :: s := s | none
      let (v, s) ← value? fuel depth (s.dropWhile isBlank)
      let fields ← fields.assign? v key
      match ← gap? (s.length + 1) s with
      | ',' :: s => fields? fuel depth fields s
      | '\x7d' :: s => return (Value.tableOf (fieldValues fields), s)
      | _ => none

end

/-- The lines of a document from the next one on; `path` leads to the table that keys are set in. -/
def lines? : Nat → List String → Fields → List Char → Option Fields
  | 0, _, _, _ => none
  | fuel + 1, path, fields, s => do
    match ← gap? (s.length + 1) s with
    | [] => return fields
    | '[' :: '[' :: s =>
      let (header, s) ← key? (s.length + 1) s
      let ']' :: ']' :: s := s | none
      let s ← lineEnd? s
      lines? fuel header (← fields.openItem? header) s
    | '[' :: s =>
      let (header, s) ← key? (s.length + 1) s
      let ']' :: s := s | none
      let s ← lineEnd? s
      lines? fuel header (← fields.openTable? header) s
    | s =>
      let (key, s) ← key? (s.length + 1) s
      let '=' :: s := s | none
      let (v, s) ← value? (s.length + 1) depthLimit (s.dropWhile isBlank)
      let s ← lineEnd? s
      lines? fuel path (← fields.assignAt? path key v) s

def parse? (source : String) : Option (List (String × Value)) :=
  let s := match source.toList with
    | '\ufeff' :: s => s
    | s => s
  match lines? (s.length + 1) [] [] s with
  | some fields =>
    match Value.tableOf (fieldValues fields) with
    | .table sorted => some sorted
    | _ => none
  | none => none

end DeclBundle.Toml
