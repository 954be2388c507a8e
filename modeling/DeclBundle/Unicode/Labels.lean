import DeclBundle.Unicode.Runs

namespace DeclBundle.Unicode

structure Labels where
  ends : Array Nat
  labels : Array String

namespace Labels

/-- Reads runs, each of them a label of `width` letters and a length. -/
def ofRuns (width : Nat) (lines : List String) : Labels :=
  let words := ((" ".intercalate lines).toList.splitOn ' ').filter fun word => !word.isEmpty
  let add (all : Array Nat × Array String) (word : List Char) : Array Nat × Array String :=
    let length := (Runs.numbers (word.drop width)).headD 0
    (all.1.push (all.1.back?.getD 0 + length), all.2.push (String.ofList (word.take width)))
  let read := words.foldl add (#[], #[])
  ⟨read.1, read.2⟩

def labelOf (t : Labels) (n : Nat) : String :=
  t.labels.getD (Runs.rank t.ends n 0 t.ends.size) ""

end Labels

end DeclBundle.Unicode
