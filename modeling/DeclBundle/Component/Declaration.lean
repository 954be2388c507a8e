import DeclBundle.Path.Basic
import DeclBundle.Text.Search

namespace DeclBundle.Component

def cleanName? (name : List Char) : Option (List Char) :=
  [".d.ts", ".d.ts.map"].findSome? fun ending =>
    (Text.dropTail? (".vue".toList ++ ending.toList) name).map (· ++ ending.toList)

def cleanFileName (p : Path) : Path :=
  match p.fileName?.bind fun name => cleanName? name.toList with
  | some name => p.withFileName (String.ofList name)
  | none => p

def isQuote (c : Char) : Bool := c = '\'' || c = '"'

/-- The text of a specifier up to its mark and its closing quote, and what follows the quote. It is on
one line, and there is some text before the mark. -/
def specifier? (quote : Char) (s : List Char) : Option (List Char × List Char) :=
  let inside (c : Char) : Bool := c != quote && c != '\n'
  match s.dropWhile inside with
  | [] => none
  | c :: rest =>
    if c != quote then none
    else match Text.dropTail? ".vue".toList (s.takeWhile inside) with
      | none => none
      | some stem => if stem.isEmpty then none else some (stem, rest)

theorem specifier?_length {quote : Char} {s stem rest : List Char}
    (h : specifier? quote s = some (stem, rest)) : rest.length < s.length := by
  unfold specifier? at h
  dsimp only at h
  split at h
  · contradiction
  · rename_i c tail htail
    have hle := (List.dropWhile_sublist (fun c => c != quote && c != '\n') (l := s)).length_le
    rw [htail, List.length_cons] at hle
    repeat' split at h
    all_goals try contradiction
    obtain ⟨_, rfl⟩ := Prod.mk.inj (Option.some.inj h)
    omega

def cleanSpecifiers : List Char → List Char
  | [] => []
  | c :: s =>
    if isQuote c then
      match h : specifier? c s with
      | some (stem, rest) =>
        have := specifier?_length h
        c :: stem ++ c :: cleanSpecifiers rest
      | none => c :: cleanSpecifiers s
    else c :: cleanSpecifiers s
termination_by s => s.length
decreasing_by all_goals (simp only [List.length_cons] at *; omega)

def cleanImports (text : String) : String := String.ofList (cleanSpecifiers text.toList)

end DeclBundle.Component
