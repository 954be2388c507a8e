import DeclBundle.Text.Utf8

namespace DeclBundle.Glob

inductive Token where
  | literal (c : Char)
  | any
  | star
  /-- `**` and its slash at the start: nothing, a slash, or anything up to a slash. -/
  | leading
  | trailing
  /-- `**` between two slashes: a slash, or anything between two slashes. -/
  | between
  /-- `[...]`: one byte of those that write the given ranges of characters, or none of them. -/
  | oneOf (negated : Bool) (ranges : List (Char × Char))
  | alternatives (branches : List (List Token))
deriving Repr, Inhabited

def slash : UInt8 := 47

/-- A range of characters as ranges of bytes: between the last byte of the first character and the
first byte of the last one, and each other byte of the two by itself. -/
def byteRanges (range : Char × Char) : List (UInt8 × UInt8) :=
  let low := String.utf8EncodeChar range.1
  let high := String.utf8EncodeChar range.2
  let single (b : UInt8) := (b, b)
  if range.1 = range.2 then low.map single
  else low.dropLast.map single ++ [(low.getLastD 0, high.headD 0)] ++ high.tail.map single

def hasByte (negated : Bool) (ranges : List (Char × Char)) (b : UInt8) : Bool :=
  (ranges.flatMap byteRanges).any (fun (low, high) => low ≤ b && b ≤ high) != negated

def skipName (rest : List UInt8 → Bool) : List UInt8 → Bool
  | [] => rest []
  | b :: s => rest (b :: s) || (b != slash && skipName rest s)

def skipAny (rest : List UInt8 → Bool) : List UInt8 → Bool
  | [] => rest []
  | b :: s => rest (b :: s) || skipAny rest s

def skipDirectories (rest : List UInt8 → Bool) : List UInt8 → Bool
  | [] => false
  | b :: s => (b == slash && rest s) || skipDirectories rest s

mutual

def isVoid : List Token → Bool
  | [] => true
  | .alternatives branches :: rest => allVoid branches && isVoid rest
  | _ => false

def allVoid : List (List Token) → Bool
  | [] => true
  | branch :: rest => isVoid branch && allVoid rest

end

mutual

/-- `accepts pattern rest s`: some start of `s` is matched by the pattern and what remains by `rest`. -/
def accepts : List Token → (List UInt8 → Bool) → List UInt8 → Bool
  | [], rest, s => rest s
  | token :: tokens, rest, s => acceptsToken token (accepts tokens rest) s

def acceptsToken : Token → (List UInt8 → Bool) → List UInt8 → Bool
  | .literal c, rest, s =>
    match (String.utf8EncodeChar c).isPrefixOf? s with
    | some s => rest s
    | none => false
  | .any, rest, s =>
    match s with
    | b :: s => b != slash && rest s
    | [] => false
  | .star, rest, s => skipName rest s
  | .leading, rest, s => rest s || skipDirectories rest s
  | .trailing, rest, s =>
    match s with
    | b :: s => b == slash && skipAny rest s
    | [] => false
  | .between, rest, s =>
    match s with
    | b :: s => b == slash && (rest s || skipDirectories rest s)
    | [] => false
  | .oneOf negated ranges, rest, s =>
    match s with
    | b :: s => hasByte negated ranges b && rest s
    | [] => false
  | .alternatives branches, rest, s =>
    if allVoid branches then rest s else acceptsSome branches rest s

def acceptsSome : List (List Token) → (List UInt8 → Bool) → List UInt8 → Bool
  | [], _, _ => false
  | branch :: branches, rest, s =>
    (!isVoid branch && accepts branch rest s) || acceptsSome branches rest s

end

def Token.isLiteral : Token → Bool
  | .literal _ => true
  | _ => false

def Token.isSlash : Token → Bool
  | .literal c => c = '/'
  | _ => false

def Token.isDot : Token → Bool
  | .literal c => c = '.'
  | _ => false

/-- Whether a pattern looks at the name of a file by itself: it ends in a dot, and is neither literal
nor a literal path behind `**`. Such a pattern does not match a step up. -/
def seesName (tokens : List Token) : Bool :=
  (tokens.getLast?.any Token.isDot) && !tokens.all Token.isLiteral &&
    match tokens with
    | .leading :: path => !(path.all Token.isLiteral && path.any Token.isSlash)
    | _ => true

def endsInStepUp (path : List Char) : Bool :=
  path.reverse.takeWhile (· != '/') = ['.', '.']

def isMatch (tokens : List Token) (path : List Char) : Bool :=
  match tokens with
  | [.leading] => true
  | tokens =>
    !(seesName tokens && endsInStepUp path) && accepts tokens List.isEmpty (Text.utf8 path)

end DeclBundle.Glob
