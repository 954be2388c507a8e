import DeclBundle.Text.Digits
import DeclBundle.Value.Basic

namespace DeclBundle.Toml

def digitIn? (base : Nat) (c : Char) : Option Nat := (Text.hexDigit? c).filter (· < base)

def digits? (base : Nat) (s : List Char) : Option (List Nat) :=
  match s with
  | [] => none
  | [c] => (digitIn? base c).map ([·])
  | c :: '_' :: rest => do return (← digitIn? base c) :: (← digits? base rest)
  | c :: rest => do return (← digitIn? base c) :: (← digits? base rest)

def numberOf (base : Nat) (digits : List Nat) : Nat := digits.foldl (fun n d => base * n + d) 0

def sign (s : List Char) : Bool × List Char :=
  match s with
  | '-' :: s => (true, s)
  | '+' :: s => (false, s)
  | s => (false, s)

def whole? (s : List Char) : Option (List Nat) :=
  match digits? 10 s with
  | some (0 :: _ :: _) => none
  | found => found

def integer? (s : List Char) : Option Int :=
  match s with
  | '0' :: 'x' :: s => (digits? 16 s).map (numberOf 16 ·)
  | '0' :: 'o' :: s => (digits? 8 s).map (numberOf 8 ·)
  | '0' :: 'b' :: s => (digits? 2 s).map (numberOf 2 ·)
  | s =>
    let (negative, s) := sign s
    (whole? s).map fun digits =>
      let n : Int := numberOf 10 digits
      if negative then -n else n

def isExponentMark (c : Char) : Bool := c = 'e' || c = 'E'

/-- A number with a fraction or an exponent, or one that is not finite. -/
def double? (s : List Char) : Option Number :=
  let (negative, s) := sign s
  if s = "inf".toList || s = "nan".toList then some .nonFinite
  else do
    let mantissa := s.takeWhile fun c => !isExponentMark c
    let exponent ← match s.dropWhile fun c => !isExponentMark c with
      | [] => some none
      | _ :: e =>
        let (negative, e) := sign e
        (digits? 10 e).map fun digits =>
          let n : Int := numberOf 10 digits
          some (if negative then -n else n)
    let first ← whole? (mantissa.takeWhile (· != '.'))
    let fraction ← match mantissa.dropWhile (· != '.') with
      | [] => some []
      | _ :: f => digits? 10 f
    if exponent.isNone && fraction.isEmpty then none
    let x ← Binary64.ofDecimal? negative (numberOf 10 (first ++ fraction))
      (exponent.getD 0 - fraction.length)
    return .double x

def fixed? (count : Nat) (s : List Char) : Option (Nat × List Char) :=
  let digits := s.take count
  if digits.length = count && digits.all Char.isDigit then
    some (Text.decimal digits, s.drop count)
  else none

def padded (count n : Nat) : String :=
  let digits := Nat.toDigits 10 n
  String.ofList (List.replicate (count - digits.length) '0' ++ digits)

def isLeapYear (year : Nat) : Bool :=
  year % 4 == 0 && (year % 100 != 0 || year % 400 == 0)

def daysIn (year month : Nat) : Nat :=
  if month = 2 then if isLeapYear year then 29 else 28
  else if month ∈ [4, 6, 9, 11] then 30
  else 31

def date? (s : List Char) : Option (String × List Char) := do
  let (year, s) ← fixed? 4 s
  let '-' :: s := s | none
  let (month, s) ← fixed? 2 s
  let '-' :: s := s | none
  let (day, s) ← fixed? 2 s
  if month = 0 || month > 12 || day = 0 || day > daysIn year month then none
  return (padded 4 year ++ "-" ++ padded 2 month ++ "-" ++ padded 2 day, s)

/-- The fraction of a second in nine digits, without zeros at its end but with one digit at least. -/
def fractionText (digits : List Char) : String :=
  let kept := ((digits.take 9).reverse.dropWhile (· = '0')).reverse
  "." ++ if kept.isEmpty then "0" else String.ofList kept

def time? (s : List Char) : Option (String × List Char) := do
  let (hour, s) ← fixed? 2 s
  let ':' :: s := s | none
  let (minute, s) ← fixed? 2 s
  if hour > 23 || minute > 59 then none
  let text := padded 2 hour ++ ":" ++ padded 2 minute
  match s with
  | ':' :: s =>
    let (second, s) ← fixed? 2 s
    if second > 60 then none
    let text := text ++ ":" ++ padded 2 second
    match s with
    | '.' :: s =>
      let digits := s.takeWhile Char.isDigit
      if digits.isEmpty then none
      return (text ++ fractionText digits, s.dropWhile Char.isDigit)
    | s => return (text, s)
  | s => return (text, s)

def offset? (s : List Char) : Option String :=
  match s with
  | [] => some ""
  | ['Z'] => some "Z"
  | ['z'] => some "Z"
  | c :: s => do
    if c != '+' && c != '-' then none
    let (hours, s) ← fixed? 2 s
    let ':' :: s := s | none
    let (minutes, s) ← fixed? 2 s
    if hours > 23 || minutes > 59 || !s.isEmpty then none
    let mark := if c = '-' && (hours != 0 || minutes != 0) then "-" else "+"
    return mark ++ padded 2 hours ++ ":" ++ padded 2 minutes

def moment? (s : List Char) : Option String :=
  match date? s with
  | some (date, []) => some date
  | some (date, c :: s) => do
    if !(c = 'T' || c = 't' || c = ' ') then none
    let (time, s) ← time? s
    return date ++ "T" ++ time ++ (← offset? s)
  | none =>
    match time? s with
    | some (time, []) => some time
    | _ => none

def momentValue (text : String) : Value := .table [("$__toml_private_datetime", .text text)]

def scalar? (s : List Char) : Option Value :=
  if s = "true".toList then some (.boolean true)
  else if s = "false".toList then some (.boolean false)
  else
    match integer? s with
    | some n => some (.number (.integer n))
    | none =>
      match double? s with
      | some n => some (.number n)
      | none => (moment? s).map momentValue

end DeclBundle.Toml
