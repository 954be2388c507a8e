
namespace DeclBundle

inductive Step where
  | root
  | current
  | parent
  | name (text : String)
deriving DecidableEq, Repr

structure Path where
  text : String
deriving DecidableEq, Repr, Inhabited

namespace Path

/-- The part of a path before its first inner piece: a root, a leading dot, or nothing. -/
inductive Anchor where
  | rooted
  | dotted
  | bare
deriving DecidableEq, Repr

def split (p : Path) : Anchor × List (List Char) :=
  match p.text.toList with
  | '/' :: body => (.rooted, body.splitOn '/')
  -- a dot is a step only if the text begins with it
  | ['.'] => (.dotted, [])
  | '.' :: '/' :: body => (.dotted, body.splitOn '/')
  | body => (.bare, body.splitOn '/')

def Anchor.write : Anchor → List (List Char) → List Char
  | .rooted, pieces => '/' :: ['/'].intercalate pieces
  | .dotted, [] => ['.']
  | .dotted, pieces => '.' :: '/' :: ['/'].intercalate pieces
  | .bare, pieces => ['/'].intercalate pieces

def Anchor.steps : Anchor → List Step
  | .rooted => [.root]
  | .dotted => [.current]
  | .bare => []

def isVoid (piece : List Char) : Bool := piece = [] || piece = ['.']

def stepOf (piece : List Char) : Option Step :=
  if isVoid piece then none
  else if piece = ['.', '.'] then some .parent
  else some (.name (String.ofList piece))

def steps (p : Path) : List Step :=
  let (anchor, pieces) := p.split
  anchor.steps ++ pieces.filterMap stepOf

/-- Equality of what is named, not of the text. -/
def same (p q : Path) : Bool := p.steps = q.steps

def isRooted (p : Path) : Bool := p.text.toList.head? = some '/'

/-- `base.join p` is `p` seen from `base`: a rooted path wins. -/
def join (base p : Path) : Path :=
  if p.isRooted then p
  else if base.text.toList.isEmpty || base.text.toList.getLast? = some '/' then
    ⟨base.text ++ p.text⟩
  else ⟨base.text ++ "/" ++ p.text⟩

instance : Coe String Path := ⟨Path.mk⟩

def trimPieces (pieces : List (List Char)) : List (List Char) :=
  (pieces.reverse.dropWhile isVoid).reverse

def parent? (p : Path) : Option Path :=
  let (anchor, pieces) := p.split
  match (trimPieces pieces).reverse, anchor with
  | _ :: rest, _ => some ⟨String.ofList (anchor.write (trimPieces rest.reverse))⟩
  | [], .dotted => some ⟨""⟩
  | [], _ => none

def fileName? (p : Path) : Option String :=
  match p.steps.getLast? with
  | some (.name n) => some n
  | _ => none

/-- The path with another last name; a path that ends in no name is extended. -/
def withFileName (p : Path) (name : String) : Path :=
  match p.fileName?, p.parent? with
  | some _, some dir => dir.join ⟨name⟩
  | _, _ => p.join ⟨name⟩

/-- What follows the last dot of the file name; a name whose only dot comes first has no extension. -/
def extension? (p : Path) : Option String :=
  match p.fileName? with
  | none => none
  | some n =>
    let reversed := n.toList.reverse
    match reversed.dropWhile (· != '.') with
    | _ :: _ :: _ => some (String.ofList (reversed.takeWhile (· != '.')).reverse)
    | _ => none

def dropSteps : Nat → List (List Char) → List (List Char)
  | count, piece :: rest =>
    if isVoid piece then dropSteps count rest
    else match count with
      | 0 => piece :: rest
      | count + 1 => dropSteps count rest
  | _, [] => []

def below? (base p : Path) : Option Path :=
  let (anchor, pieces) := p.split
  let skipped := base.steps.length
  if !base.steps.isPrefixOf p.steps then none
  else if skipped = 0 then some ⟨String.ofList (anchor.write (trimPieces pieces))⟩
  else some ⟨String.ofList (Anchor.bare.write
    (trimPieces (dropSteps (skipped - anchor.steps.length) pieces)))⟩

end Path

end DeclBundle
