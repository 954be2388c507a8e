import DeclBundle.Error

namespace DeclBundle

namespace SourceId

def limit : Nat := UInt32.size

def ofIndex (i : Nat) : Except Error SourceId := if i < limit then .ok ⟨i⟩ else .error .outOfRange

end SourceId

/-- Sources in the order in which their paths were first registered. -/
structure Sources (α : Type) where
  entries : List (Path × α)

namespace Sources

def empty : Sources α := ⟨[]⟩

def paths (s : Sources α) : List Path := s.entries.map Prod.fst

def index? (s : Sources α) (p : Path) : Option Nat := s.entries.findIdx? fun (q, _) => q.same p

def insert (s : Sources α) (p : Path) (x : α) : Sources α × Nat :=
  match s.index? p with
  | some i => (⟨s.entries.modify i fun (q, _) => (q, x)⟩, i)
  | none => (⟨s.entries ++ [(p, x)]⟩, s.entries.length)

/-- A path that gets no number is known nevertheless. -/
def register (s : Sources α) (p : Path) (x : α) : Sources α × Except Error SourceId :=
  let (sources, i) := s.insert p x
  (sources, SourceId.ofIndex i)

end Sources

end DeclBundle
