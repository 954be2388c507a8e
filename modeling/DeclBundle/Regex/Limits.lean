import DeclBundle.Regex.Parser

namespace DeclBundle.Regex

def CharSet.changes (s : CharSet) (low : Nat) : Nat → Nat → Nat
  | 0, found => found
  | count + 1, found =>
    let differs := s.has (Char.ofNat (low + count)) != s.has (Char.ofNat (low + count + 1))
    s.changes low count (found + if differs then 1 else 0)

/-- How large a set is: the more gaps it has beyond ASCII, and larger still if it has nearly all
characters. -/
def CharSet.size (s : CharSet) : Nat :=
  let last := 0x10FFFF
  max 1 (s.changes 127 (last - 127) 0 + if s.has (Char.ofNat last) then 30 else 0)

def Expr.size (sizeOf : CharSet → Nat) : Expr → Nat
  | .empty => 1
  | .set chars => sizeOf chars
  | .look _ => 1
  | .sequence first second => first.size sizeOf + second.size sizeOf
  | .either first second => first.size sizeOf + second.size sizeOf + 2
  | .times body least none => body.size sizeOf * max 1 least + 2
  | .times body least (some most) => body.size sizeOf * most + (most - least)
  | .group body => body.size sizeOf + 2

def broadSize (_ : CharSet) : Nat := 1600

def sizeLimit : Nat := 327680

def Expr.isSmall (e : Expr) : Bool :=
  e.size broadSize ≤ sizeLimit || e.size CharSet.size ≤ sizeLimit

def Expr.isSequence : Expr → Bool
  | .sequence _ _ => true
  | _ => false

def Expr.isEither : Expr → Bool
  | .either _ _ => true
  | _ => false

/-- How deeply an expression is nested; a sequence, or a choice, is one level however long it is. -/
def Expr.depth : Expr → Nat
  | .empty => 0
  | .set _ => 0
  | .look _ => 0
  | .sequence first second =>
    max (first.depth + 1) (second.depth + if second.isSequence then 0 else 1)
  | .either first second =>
    max (first.depth + if first.isEither then 0 else 1) (second.depth + 1)
  | .times body _ _ => body.depth + 1
  | .group body => body.depth + 1

def depthLimit : Nat := 250

def parse? (s : List Char) : Option Expr :=
  (expression? s).filter fun e => e.depth ≤ depthLimit && e.isSmall

end DeclBundle.Regex
