import DeclBundle.Text.Digits

namespace DeclBundle.Unicode

structure Runs where
  changes : Array Nat

namespace Runs

/-- How many entries of a sorted array, of those from `low` up to below `high`, come at or before `n`;
`low` of them are known to. -/
def rank (changes : Array Nat) (n low high : Nat) : Nat :=
  if low < high then
    let middle := (low + high) / 2
    if changes.getD middle 0 ≤ n then rank changes n (middle + 1) high
    else rank changes n low middle
  else low
termination_by high - low
decreasing_by all_goals omega

def has (r : Runs) (n : Nat) : Bool := rank r.changes n 0 r.changes.size % 2 == 1

def numbers (text : List Char) : List Nat :=
  (text.splitOn ' ').filterMap fun word => if word.isEmpty then none else Text.hexadecimal? word

def ofDistances (lines : List String) : Runs :=
  let distances := numbers ((" ".intercalate lines).toList)
  ⟨(distances.foldl (fun (all, last) d => (all.push (last + d), last + d)) (#[], 0)).1⟩

end Runs

end DeclBundle.Unicode
