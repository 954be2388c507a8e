import DeclBundle.Decimal.Binary64

namespace DeclBundle.Binary64

/-- A number with its rounding interval, in fourths of its last binary place: those decimals between
`low` and `high` read back as the number, the ends too if `closed`. -/
structure Interval where
  low : Nat
  value : Nat
  high : Nat
  exponent : Int
  closed : Bool

def interval (x : Binary64) : Interval where
  low := 4 * x.significand -
    -- below a power of two the numbers lie twice as close
    if x.significand = Nat.pow 2 52 && x.exponent > leastExponent then 1 else 2
  value := 4 * x.significand
  high := 4 * x.significand + 2
  exponent := x.exponent - 2
  closed := x.significand % 2 == 0

def leadingExponent (num den : Nat) : Int :=
  if num ≥ den then ((Nat.toDigits 10 (num / den)).length : Int) - 1
  else -((Nat.toDigits 10 ((den + num - 1) / num - 1)).length : Int)

/-- Of the neighbours of the number on the grid of multiples of `10 ^ exponent`, the nearer one that
reads back. -/
def Interval.onGrid? (i : Interval) (exponent : Int) : Option Nat :=
  let ten := Nat.pow 10 exponent.toNat * Nat.pow 2 (-i.exponent).toNat
  let two := Nat.pow 2 i.exponent.toNat * Nat.pow 10 (-exponent).toNat
  let within (c : Nat) : Bool :=
    if i.closed then i.low * two ≤ c * ten && c * ten ≤ i.high * two
    else i.low * two < c * ten && c * ten < i.high * two
  let below := i.value * two / ten
  let above := below + 1
  match within below, within above with
  | false, false => none
  | true, false => some below
  | false, true => some above
  | true, true =>
    let down := i.value * two - below * ten
    let up := above * ten - i.value * two
    some (if down < up || (down == up && below % 2 == 0) then below else above)

def dropZeros : Nat → Nat → Int → Nat × Int
  | 0, digits, exponent => (digits, exponent)
  | fuel + 1, digits, exponent =>
    if digits % 10 = 0 && digits ≠ 0 then dropZeros fuel (digits / 10) (exponent + 1)
    else (digits, exponent)

/-- Digits `d` and exponent `k` of the shortest decimal `d * 10 ^ k` that reads back as `|x|`. -/
def shortest (x : Binary64) : Nat × Int :=
  if x.significand = 0 then (0, 0)
  else
    let i := x.interval
    let (num, den) := if i.exponent ≥ 0 then (i.value * Nat.pow 2 i.exponent.toNat, 1)
      else (i.value, Nat.pow 2 (-i.exponent).toNat)
    let first := leadingExponent num den
    let found := (List.range 17).findSome? fun (more : Nat) =>
      let exponent := first - (more : Int)
      (i.onGrid? exponent).map (·, exponent)
    let (digits, exponent) := found.getD (0, 0)
    dropZeros 20 digits exponent

end DeclBundle.Binary64
