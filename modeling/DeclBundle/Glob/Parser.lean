import DeclBundle.Glob.Basic

namespace DeclBundle.Glob

/-- The ranges of a set of characters, with the last one that was read first. A dash joins two
characters unless it comes first or last. -/
structure Ranges where
  ranges : List (Char × Char)
  joining : Bool

namespace Ranges

def empty : Ranges := ⟨[], false⟩

def add? (r : Ranges) (c : Char) : Option Ranges :=
  match r.joining, r.ranges with
  | true, (low, _) :: rest => if c < low then none else some ⟨(low, c) :: rest, false⟩
  | _, ranges => if c = '-' && !ranges.isEmpty then some ⟨ranges, true⟩ else some ⟨(c, c) :: ranges, false⟩

def finish (r : Ranges) : List (Char × Char) :=
  if r.joining then (('-', '-') :: r.ranges).reverse else r.ranges.reverse

end Ranges

def setRest? (r : Ranges) : List Char → Option (List (Char × Char) × List Char)
  | [] => none
  | ']' :: s => some (r.finish, s)
  | c :: s => (r.add? c).bind (setRest? · s)

def set? (s : List Char) : Option (Token × List Char) :=
  let (negated, s) := match s with
    | '!' :: s => (true, s)
    | '^' :: s => (true, s)
    | s => (false, s)
  match s with
  | [] => none
  | c :: s => (Ranges.empty.add? c).bind fun r =>
    (setRest? r s).map fun (ranges, s) => (.oneOf negated ranges, s)

theorem setRest?_length {r : Ranges} {s rest : List Char} {ranges : List (Char × Char)}
    (h : setRest? r s = some (ranges, rest)) : rest.length < s.length := by
  induction s generalizing r with
  | nil => simp [setRest?] at h
  | cons c s ih =>
    unfold setRest? at h
    split at h
    · contradiction
    · simp only [Option.some.injEq, Prod.mk.injEq] at h
      simp_all
    · rename_i heq
      simp only [List.cons.injEq] at heq
      obtain ⟨rfl, rfl⟩ := heq
      obtain ⟨r', _, h⟩ := Option.bind_eq_some_iff.1 h
      have := ih h
      simp only [List.length_cons]
      omega

theorem set?_length {s rest : List Char} {token : Token} (h : set? s = some (token, rest)) :
    rest.length < s.length := by
  unfold set? at h
  split at h
  rename_i negated body hbody
  have hle : body.length ≤ s.length := by
    split at hbody <;> obtain ⟨_, rfl⟩ := Prod.mk.inj hbody <;> simp
  split at h
  · contradiction
  · rename_i c tail
    obtain ⟨r, _, h⟩ := Option.bind_eq_some_iff.1 h
    obtain ⟨⟨ranges, rest'⟩, hr, h⟩ := Option.map_eq_some_iff.1 h
    obtain ⟨_, rfl⟩ := Prod.mk.inj h
    have := setRest?_length hr
    simp only [List.length_cons] at hle
    omega

structure Open where
  before : List Token
  branches : List (List Token)

/-- What two stars stand for after the tokens of a branch (the last one first) and the character before
them, and how many of the characters that follow belong to them. -/
def doubleStar (tokens : List Token) (previous : Option Char) (inside : Bool) (s : List Char) :
    List Token × List Char :=
  let plain := (.star :: .star :: tokens, s)
  -- the token takes the place of the slash before it; one that reaches over directories already stays
  let after (token : Token) := match tokens with
    | .leading :: _ => tokens
    | .trailing :: _ => tokens
    | _ :: earlier => token :: earlier
    | [] => [token]
  match tokens, s with
  | [], [] => ([.leading], [])
  | [], '/' :: s => ([.leading], s)
  | [], _ => plain
  | _, s =>
    if previous != some '/' then plain
    else match s with
      | [] => (after .trailing, [])
      | '/' :: s => (after .between, s)
      | c :: _ => if inside && (c = ',' || c = '\x7d') then (after .trailing, s) else plain

theorem doubleStar_length (tokens : List Token) (previous : Option Char) (inside : Bool)
    (s : List Char) : (doubleStar tokens previous inside s).2.length ≤ s.length := by
  unfold doubleStar
  dsimp only
  repeat' split
  all_goals simp

/-- Reads a pattern on, after the tokens of the current branch (the last one first), within the braces
that are open. -/
def parseFrom (previous : Option Char) (tokens : List Token) (opened : List Open) :
    List Char → Option (List Token)
  | [] => if opened.isEmpty then some tokens.reverse else none
  | '?' :: s => parseFrom (some '?') (.any :: tokens) opened s
  | '*' :: '*' :: s =>
    have := doubleStar_length tokens previous (!opened.isEmpty) s
    let read := doubleStar tokens previous (!opened.isEmpty) s
    parseFrom (some (if read.2.length < s.length then '/' else '*')) read.1 opened read.2
  | '*' :: s => parseFrom (some '*') (.star :: tokens) opened s
  | '[' :: s =>
    match h : set? s with
    | none => none
    | some (token, rest) =>
      have := set?_length h
      parseFrom (some ']') (token :: tokens) opened rest
  | '\x7b' :: s => parseFrom (some '\x7b') [] (⟨tokens, []⟩ :: opened) s
  | '\x7d' :: s =>
    match opened with
    | [] => none
    | brace :: outer =>
      parseFrom (some '\x7d')
        (.alternatives (tokens.reverse :: brace.branches).reverse :: brace.before) outer s
  | ',' :: s =>
    match opened with
    | [] => parseFrom (some ',') (.literal ',' :: tokens) [] s
    | brace :: outer =>
      parseFrom (some ',') [] (⟨brace.before, tokens.reverse :: brace.branches⟩ :: outer) s
  | c :: s => parseFrom (some c) (.literal c :: tokens) opened s
termination_by s => s.length
decreasing_by all_goals (simp only [List.length_cons]; omega)

def parse? (pattern : List Char) : Option (List Token) := parseFrom none [] [] pattern

def escape (s : List Char) : List Char :=
  s.flatMap fun c => if c ∈ ['?', '*', '[', ']', '\x7b', '\x7d'] then ['[', c, ']'] else [c]

end DeclBundle.Glob
