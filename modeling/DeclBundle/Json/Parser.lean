import DeclBundle.Text.Digits
import DeclBundle.Value.Basic

namespace DeclBundle.Json

def isSpace (c : Char) : Bool := c = ' ' || c = '\t' || c = '\n' || c = '\r'

def skipSpace (s : List Char) : List Char := s.dropWhile isSpace

def unit? (s : List Char) : Option (Nat × List Char) :=
  if (s.take 4).length < 4 then none else (Text.hexadecimal? (s.take 4)).map (·, s.drop 4)

def unicodeEscape? (s : List Char) : Option (Char × List Char) := do
  let (high, rest) ← unit? s
  if 0xD800 ≤ high && high < 0xDC00 then
    match rest with
    | '\\' :: 'u' :: rest =>
      let (low, rest) ← unit? rest
      if 0xDC00 ≤ low && low < 0xE000 then
        some (Char.ofNat (0x10000 + (high - 0xD800) * 0x400 + (low - 0xDC00)), rest)
      else none
    | _ => none
  else if 0xDC00 ≤ high && high < 0xE000 then none
  else some (Char.ofNat high, rest)

def quotedRest? : Nat → List Char → List Char → Option (String × List Char)
  | 0, _, _ => none
  | fuel + 1, acc, s =>
    match s with
    | '"' :: rest => some (String.ofList acc.reverse, rest)
    | '\\' :: c :: rest =>
      match c with
      | '"' | '\\' | '/' => quotedRest? fuel (c :: acc) rest
      | 'b' => quotedRest? fuel ('\x08' :: acc) rest
      | 'f' => quotedRest? fuel ('\x0c' :: acc) rest
      | 'n' => quotedRest? fuel ('\n' :: acc) rest
      | 'r' => quotedRest? fuel ('\r' :: acc) rest
      | 't' => quotedRest? fuel ('\t' :: acc) rest
      | 'u' =>
        match unicodeEscape? rest with
        | some (c, rest) => quotedRest? fuel (c :: acc) rest
        | none => none
      | _ => none
    | c :: rest => if c.toNat < 32 then none else quotedRest? fuel (c :: acc) rest
    | [] => none

def takeDigits (n : Nat) : List Char → Nat × Nat
  | [] => (n, 0)
  | c :: rest =>
    if 10 * n + Text.digitValue c < Nat.pow 2 64 then
      let (m, count) := takeDigits (10 * n + Text.digitValue c) rest
      (m, count + 1)
    else (n, 0)

/-- `x * 10 ^ exponent`, rounded after each product and quotient; a power of ten is at most 1e308, so
small numbers take several quotients. -/
def scale? : Nat → Binary64 → Int → Option Binary64
  | 0, x, _ => some x
  | steps + 1, x, exponent =>
    let ten (n : Nat) : Binary64 := (Binary64.ofDecimal? false 1 n).getD ⟨false, 1, 0⟩
    if x.significand = 0 then some x
    else if exponent > 308 then none
    else if exponent ≥ 0 then x.mul? (ten exponent.toNat)
    else if exponent ≥ -308 then x.div? (ten (-exponent).toNat)
    else (x.div? (ten 308)).bind fun x => scale? steps x (exponent + 308)

/-- A number that is no exact integer: its first digits, as many as fit into 64 bits, are rounded and
then scaled. -/
def double? (negative : Bool) (whole fraction : List Char) (exponent : Int) : Option Number := do
  let (n, kept) := takeDigits 0 whole
  let (n, places) := takeDigits n fraction
  let x ← Binary64.ofRatio? false n 1
  let x ← scale? 4 x (exponent + (whole.length - kept : Nat) - places)
  return .double { x with negative := negative }

def number (negative : Bool) (whole : List Char) (fraction : List Char) (exponent : Option Int) :
    Option Number :=
  let asDouble := double? negative whole fraction (exponent.getD 0)
  if fraction.isEmpty && exponent.isNone then
    let n := Text.decimal whole
    if negative then
      -- negative zero is a double, since no integer has its sign
      if n = 0 || n > Nat.pow 2 63 then asDouble else some (.integer (-n))
    else if n < Nat.pow 2 64 then some (.integer n) else asDouble
  else asDouble

def fraction? : List Char → Option (List Char × List Char)
  | '.' :: rest =>
    let digits := rest.takeWhile Char.isDigit
    if digits.isEmpty then none else some (digits, rest.dropWhile Char.isDigit)
  | s => some ([], s)

def exponent? (s : List Char) : Option (Option Int × List Char) :=
  match s with
  | c :: rest =>
    if c = 'e' || c = 'E' then
      let (negative, rest) := match rest with
        | '-' :: rest => (true, rest)
        | '+' :: rest => (false, rest)
        | rest => (false, rest)
      let digits := rest.takeWhile Char.isDigit
      if digits.isEmpty then none
      else
        let n : Int := Text.decimal digits
        some (some (if negative then -n else n), rest.dropWhile Char.isDigit)
    else some (none, s)
  | [] => some (none, [])

def number? (s : List Char) : Option (Number × List Char) := do
  let (negative, rest) := match s with
    | '-' :: rest => (true, rest)
    | rest => (false, rest)
  let whole := rest.takeWhile Char.isDigit
  let rest := rest.dropWhile Char.isDigit
  if whole.isEmpty || (whole.head? = some '0' && whole.length > 1) then none
  let (fraction, rest) ← fraction? rest
  let (exponent, rest) ← exponent? rest
  let n ← number negative whole fraction exponent
  some (n, rest)

mutual

/-- One value at the front of a text, and the rest. The fuel bounds how deep values nest and how
many there are: every step takes a character. -/
def value? : Nat → List Char → Option (Value × List Char)
  | 0, _ => none
  | fuel + 1, s =>
    match skipSpace s with
    | 'n' :: 'u' :: 'l' :: 'l' :: rest => some (.null, rest)
    | 't' :: 'r' :: 'u' :: 'e' :: rest => some (.boolean true, rest)
    | 'f' :: 'a' :: 'l' :: 's' :: 'e' :: rest => some (.boolean false, rest)
    | '"' :: rest => (quotedRest? (rest.length + 1) [] rest).map fun (t, rest) => (.text t, rest)
    | '[' :: rest =>
      match skipSpace rest with
      | ']' :: rest => some (.list [], rest)
      | rest => items? fuel [] rest
    | '\x7b' :: rest =>
      match skipSpace rest with
      | '\x7d' :: rest => some (.table [], rest)
      | rest => fields? fuel [] rest
    | rest => (number? rest).map fun (n, rest) => (.number n, rest)

def items? : Nat → List Value → List Char → Option (Value × List Char)
  | 0, _, _ => none
  | fuel + 1, acc, s =>
    match value? fuel s with
    | none => none
    | some (v, rest) =>
      match skipSpace rest with
      | ',' :: rest => items? fuel (v :: acc) rest
      | ']' :: rest => some (.list (v :: acc).reverse, rest)
      | _ => none

def fields? : Nat → List (String × Value) → List Char → Option (Value × List Char)
  | 0, _, _ => none
  | fuel + 1, acc, s =>
    match skipSpace s with
    | '"' :: rest =>
      match quotedRest? (rest.length + 1) [] rest with
      | none => none
      | some (key, rest) =>
        match skipSpace rest with
        | ':' :: rest =>
          match value? fuel rest with
          | none => none
          | some (v, rest) =>
            match skipSpace rest with
            | ',' :: rest => fields? fuel ((key, v) :: acc) rest
            | '\x7d' :: rest => some (Value.tableOf ((key, v) :: acc).reverse, rest)
            | _ => none
        | _ => none
    | _ => none

end

def parse? (s : String) : Option Value :=
  match value? (s.toList.length + 1) s.toList with
  | some (v, rest) => if (skipSpace rest).isEmpty then some v else none
  | none => none

end DeclBundle.Json
