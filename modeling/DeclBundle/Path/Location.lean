import DeclBundle.Path.Basic

namespace DeclBundle

/-- Steps up from a start, or none from the root, and then names. -/
structure Location where
  rooted : Bool
  ups : Nat
  names : List String
deriving DecidableEq, Repr

namespace Location

def start : Location := ⟨false, 0, []⟩

def root : Location := ⟨true, 0, []⟩

def go (l : Location) : Step → Location
  | .root => root
  | .current => l
  | .parent =>
    if l.names ≠ [] then { l with names := l.names.dropLast }
    else if l.rooted then l
    else { l with ups := l.ups + 1 }
  | .name n => { l with names := l.names ++ [n] }

def walk (l : Location) (cs : List Step) : Location := cs.foldl go l

def steps (l : Location) : List Step :=
  (if l.rooted then [.root] else []) ++ List.replicate l.ups .parent ++ l.names.map .name

end Location

def Step.text : Step → String
  | .root => ""
  | .current => "."
  | .parent => ".."
  | .name n => n

namespace Path

def ofSteps : List Step → Path
  | [.root] => ⟨"/"⟩
  | cs => ⟨"/".intercalate (cs.map Step.text)⟩

def location (p : Path) : Location := Location.start.walk p.steps

def normalize (p : Path) : Path := ofSteps p.location.steps

def resolve (base p : Path) : Path := (base.join p).normalize

def sharedLength : List Step → List Step → Nat
  | a :: as, b :: bs => if a = b then sharedLength as bs + 1 else 0
  | _, _ => 0

/-- `relativeTo base target` leads from `base` to `target`: up to the last common directory and then down.
From a relative base there is no way to a rooted target but its own. -/
def relativeTo (base target : Path) : Path :=
  let source := base.location.steps
  let goal := target.location.steps
  let shared := sharedLength source goal
  -- the root can only be what is left of the goal when the base is relative
  match goal.drop shared with
  | .root :: rest => ofSteps (.root :: rest)
  | rest => ofSteps (List.replicate (source.length - shared) .parent ++ rest)

/-- The part that two step lists share, which keeps the root that the first begins with. -/
def sharedAncestor (a b : List Step) : List Step :=
  match a.take (sharedLength a b), a with
  | [], .root :: _ => [.root]
  | shared, _ => shared

def commonAncestor? : List Path → Option Path
  | [] => none
  | dir :: dirs => some (ofSteps
      (dirs.foldl (fun a d => sharedAncestor a d.location.steps) dir.location.steps))

end Path

end DeclBundle
