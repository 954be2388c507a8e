import DeclBundle.Diagnostic.Basic
import DeclBundle.Text.Blank
import DeclBundle.Text.Digits
import DeclBundle.Text.Lines
import DeclBundle.Text.Search
import DeclBundle.Unicode.Digit

namespace DeclBundle.Diagnostic

/-- The number that digits write; digits other than those of ASCII, and numbers beyond 32 bits, count as
zero. -/
def numberOf (digits : List Char) : Nat :=
  let n := Text.decimal digits
  if digits.all Char.isDigit && n < Nat.pow 2 32 then n else 0

def number? (s : List Char) : Option (Nat × List Char) :=
  let digits := s.takeWhile Unicode.isDigit
  if digits.isEmpty then none else some (numberOf digits, s.dropWhile Unicode.isDigit)

def headline? (s : List Char) : Option (Category × Nat × List Char) :=
  Category.all.findSome? fun category => do
    let s ← Text.dropHead? category.label.toList s
    let s ← Text.dropHead? " TS".toList s
    let (code, s) ← number? s
    let s ← Text.dropHead? ": ".toList s
    return (category, code, s)

structure Marker where
  line : Nat
  column : Nat
  category : Category
  code : Nat
  message : List Char

def marker? (s : List Char) : Option Marker := do
  let s ← Text.dropHead? ['('] s
  let (line, s) ← number? s
  let s ← Text.dropHead? [','] s
  let (column, s) ← number? s
  let s ← Text.dropHead? "): ".toList s
  let (category, code, message) ← headline? s
  return ⟨line, column, category, code, message⟩

def lastMarker? : List Char → Option (List Char × Marker)
  | [] => none
  | c :: s =>
    match lastMarker? s with
    | some (before, m) => some (c :: before, m)
    | none => (marker? (c :: s)).map ([], ·)

def ofLine? (locate : String → Path) (line : List Char) : Option Diagnostic :=
  match lastMarker? line with
  | some (c :: name, m) =>
    some ⟨m.category, m.code, String.ofList m.message,
      some ⟨locate (String.ofList (c :: name)), m.line, m.column⟩⟩
  | _ => (headline? line).map fun (category, code, message) =>
    ⟨category, code, String.ofList message, none⟩

def addLine (d : Diagnostic) (line : List Char) : Diagnostic :=
  { d with message := d.message ++ "\n" ++ String.ofList (Text.trimEnd line) }

/-- Diagnostics, the last one first, and lines that belong to none. -/
structure Reading where
  diagnostics : List Diagnostic
  unknown : List String

def Reading.add (locate : String → Path) (r : Reading) (line : List Char) : Reading :=
  if Text.allBlank line then r
  else match ofLine? locate line with
    | some d => { r with diagnostics := d :: r.diagnostics }
    | none =>
      match r.diagnostics, line.head?.any Text.isBlank with
      | d :: earlier, true => { r with diagnostics := d.addLine line :: earlier }
      | _, _ => { r with unknown := r.unknown ++ [String.ofList line] }

def parse (locate : String → Path) (s : List Char) : List Diagnostic × List String :=
  let r := (Text.lines s).foldl (Reading.add locate) ⟨[], []⟩
  (r.diagnostics.reverse, r.unknown)

end DeclBundle.Diagnostic
