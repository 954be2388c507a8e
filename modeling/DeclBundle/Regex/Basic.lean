import DeclBundle.Regex.CharSet

namespace DeclBundle.Regex

inductive Look where
  | textStart
  | textEnd
  /-- The start of a line; with `crlf`, lines end at either character of a carriage return and a line
  feed, but not between them. -/
  | lineStart (crlf : Bool)
  | lineEnd (crlf : Bool)
  /-- Whether a word is on the left and on the right; `none` leaves that open. -/
  | sides (unicode : Bool) (left right : Option Bool)
  | boundary (unicode negated : Bool)
deriving Repr

inductive Expr where
  | empty
  | set (chars : CharSet)
  | look (place : Look)
  | sequence (first second : Expr)
  | either (first second : Expr)
  | times (body : Expr) (least : Nat) (most : Option Nat)
  | group (body : Expr)
deriving Inhabited

def isWordIn (unicode : Bool) (c : Char) : Bool :=
  if unicode then Unicode.isWord c else Unicode.isAsciiWord c

def Look.holds (l : Look) (before after : Option Char) : Bool :=
  match l with
  | textStart => before.isNone
  | textEnd => after.isNone
  | lineStart crlf =>
    before.all fun b =>
      b = '\n' || (crlf && b = '\r' && after != some '\n')
  | lineEnd crlf =>
    after.all fun a =>
      (a = '\n' && !(crlf && before = some '\r')) || (crlf && a = '\r')
  | sides unicode left right =>
    left.all (· == before.any (isWordIn unicode)) && right.all (· == after.any (isWordIn unicode))
  | boundary unicode negated =>
    (before.any (isWordIn unicode) != after.any (isWordIn unicode)) != negated

def charMask (chars : CharSet) : List Char → Nat
  | [] => 0
  | c :: s => 2 * charMask chars s + (if chars.has c then 1 else 0)

def lookMask (l : Look) (before : Option Char) : List Char → Nat
  | [] => if l.holds before none then 1 else 0
  | c :: s => 2 * lookMask l (some c) s + (if l.holds before (some c) then 1 else 0)

def iterate (step : Nat → Nat) : Nat → Nat → Nat
  | 0, starts => starts
  | count + 1, starts =>
    let next := step starts
    if next = starts then starts else iterate step count next

def reach (step : Nat → Nat) : Nat → Nat → Nat
  | 0, starts => starts
  | count + 1, starts =>
    let next := starts ||| step starts
    if next = starts then starts else reach step count next

/-- The ends of the matches of an expression in `s` that begin at `starts`. -/
def Expr.ends (s : List Char) : Expr → Nat → Nat
  | .empty, starts => starts
  | .set chars, starts => (starts &&& charMask chars s) <<< 1
  | .look l, starts => starts &&& lookMask l none s
  | .sequence first second, starts => second.ends s (first.ends s starts)
  | .either first second, starts => first.ends s starts ||| second.ends s starts
  | .times body least most, starts =>
    let starts := iterate (body.ends s) least starts
    match most with
    -- each round that matters adds a position, and there are no more than these
    | none => reach (body.ends s) (s.length + 1) starts
    | some most => reach (body.ends s) (most - least) starts
  | .group body, starts => body.ends s starts

def Expr.isMatch (e : Expr) (s : List Char) : Bool :=
  e.ends s (Nat.pow 2 (s.length + 1) - 1) != 0

end DeclBundle.Regex
