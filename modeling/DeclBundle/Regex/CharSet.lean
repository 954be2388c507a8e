import DeclBundle.Text.Blank
import DeclBundle.Unicode.CaseFold
import DeclBundle.Unicode.Category
import DeclBundle.Unicode.Digit
import DeclBundle.Unicode.Property
import DeclBundle.Unicode.Script
import DeclBundle.Unicode.Word

namespace DeclBundle.Regex

structure CharSet where
  has : Char → Bool
deriving Inhabited

namespace CharSet

def none : CharSet := ⟨fun _ => false⟩
def range (low high : Char) : CharSet := ⟨fun c => low ≤ c && c ≤ high⟩
def negate (s : CharSet) : CharSet := ⟨fun c => !s.has c⟩
def union (s t : CharSet) : CharSet := ⟨fun c => s.has c || t.has c⟩
def inter (s t : CharSet) : CharSet := ⟨fun c => s.has c && t.has c⟩
def diff (s t : CharSet) : CharSet := ⟨fun c => s.has c && !t.has c⟩
def symmDiff (s t : CharSet) : CharSet := ⟨fun c => s.has c != t.has c⟩

def isAscii (c : Char) : Bool := c.toNat < 128

def foldCase (unicode : Bool) (s : CharSet) : CharSet :=
  if unicode then
    ⟨fun c => s.has c || (Unicode.sameButCase c.toNat).any fun n => s.has (Char.ofNat n)⟩
  else ⟨fun c => s.has c || s.has c.toLower || s.has c.toUpper⟩

def perl (unicode : Bool) (c : Char) : CharSet :=
  if c = 'd' then ⟨fun c => if unicode then Unicode.isDigit c else c.isDigit⟩
  else if c = 's' then
    ⟨fun c => if unicode then Text.isBlank c else isAscii c && Text.isBlank c⟩
  else ⟨fun c => if unicode then Unicode.isWord c else Unicode.isAsciiWord c⟩

def ascii? (name : String) : Option CharSet :=
  match name with
  | "alnum" => some ⟨Char.isAlphanum⟩
  | "alpha" => some ⟨Char.isAlpha⟩
  | "ascii" => some ⟨isAscii⟩
  | "blank" => some ⟨fun c => c = ' ' || c = '\t'⟩
  | "cntrl" => some ⟨fun c => c.toNat < 32 || c.toNat = 127⟩
  | "digit" => some ⟨Char.isDigit⟩
  | "graph" => some (range '!' '~')
  | "lower" => some ⟨Char.isLower⟩
  | "print" => some (range ' ' '~')
  | "punct" => some ⟨fun c => '!' ≤ c && c ≤ '~' && !c.isAlphanum⟩
  | "space" => some ⟨fun c => isAscii c && Text.isBlank c⟩
  | "upper" => some ⟨Char.isUpper⟩
  | "word" => some ⟨Unicode.isAsciiWord⟩
  | "xdigit" => some ⟨fun c => c.isDigit || ('a' ≤ c && c ≤ 'f') || ('A' ≤ c && c ≤ 'F')⟩
  | _ => Option.none

/-- A name without blanks, dashes, underscores and capitals, and without `is` at its start. -/
def plainName (name : List Char) : String :=
  let plain := (name.filter fun c => isAscii c && c != ' ' && c != '-' && c != '_').map Char.toLower
  match plain with
  | 'i' :: 's' :: rest => if rest = ['c'] then "isc" else String.ofList rest
  | plain => String.ofList plain

def ofCategory? (name : String) : Option CharSet :=
  if name = "any" then some ⟨fun _ => true⟩
  else if name = "assigned" then some ⟨fun c => Unicode.category c != "Cn"⟩
  else if name = "ascii" then some ⟨isAscii⟩
  else (Unicode.categoryNames.find? fun (names, _) => name ∈ names).map fun (_, categories) =>
    ⟨fun c => Unicode.category c ∈ categories⟩

def ofScript? (name : String) : Option CharSet :=
  (Unicode.scriptNames.find? fun names => name ∈ names.splitOn " ").map fun names =>
    let short := (names.toList.take 4)
    ⟨fun c => (Unicode.script c).toList.map Char.toLower = short⟩

def ofProperty? (name : String) : Option CharSet :=
  (Unicode.properties.find? fun (names, _) => name ∈ names).map fun (_, runs) =>
    ⟨fun c => runs.has c.toNat⟩

def named? (name : List Char) : Option CharSet :=
  let name := plainName name
  let property := if name = "cf" || name = "sc" || name = "lc" then Option.none else ofProperty? name
  property.or ((ofCategory? name).or (ofScript? name))

def valued? (property value : List Char) : Option CharSet :=
  let value := plainName value
  match plainName property with
  | "gc" | "generalcategory" => ofCategory? value
  | "sc" | "script" | "scx" | "scriptextensions" => ofScript? value
  | _ => Option.none

end CharSet

end DeclBundle.Regex
