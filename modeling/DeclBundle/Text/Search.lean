
namespace DeclBundle.Text

def contains (needle : List Char) : List Char → Bool
  | [] => needle.isEmpty
  | c :: s => needle.isPrefixOf (c :: s) || contains needle s

theorem contains_iff {needle s : List Char} : contains needle s ↔ needle <:+: s := by
  induction s with
  | nil => simp [contains]
  | cons c s ih => simp [contains, ih, List.infix_cons_iff]

def replaceChar (a b : Char) (s : List Char) : List Char :=
  s.map fun c => if c = a then b else c

def dropHead? : List Char → List Char → Option (List Char)
  | [], s => some s
  | _ :: _, [] => none
  | a :: head, c :: s => if a = c then dropHead? head s else none

theorem dropHead?_eq_some {head s rest : List Char} :
    dropHead? head s = some rest ↔ s = head ++ rest := by
  induction head generalizing s with
  | nil => simp [dropHead?]
  | cons a head ih =>
    cases s with
    | nil => simp [dropHead?]
    | cons c s => by_cases h : a = c <;> simp [dropHead?, h, ih, eq_comm]

theorem dropHead?_length {head s rest : List Char} (h : dropHead? head s = some rest) :
    s.length = head.length + rest.length := by
  rw [dropHead?_eq_some.1 h, List.length_append]

def dropTail? (tail s : List Char) : Option (List Char) :=
  (dropHead? tail.reverse s.reverse).map List.reverse

theorem dropTail?_eq_some {tail s rest : List Char} :
    dropTail? tail s = some rest ↔ s = rest ++ tail := by
  simp only [dropTail?, Option.map_eq_some_iff, dropHead?_eq_some]
  constructor
  · rintro ⟨r, h, rfl⟩
    rw [← List.reverse_reverse s, h, List.reverse_append, List.reverse_reverse]
  · rintro rfl
    exact ⟨rest.reverse, List.reverse_append, List.reverse_reverse _⟩

def dropLeading (head s : List Char) : List Char :=
  match dropHead? head s with
  | some rest => if rest.length < s.length then dropLeading head rest else s
  | none => s
termination_by s.length

end DeclBundle.Text
