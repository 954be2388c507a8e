import DeclBundle.Proofs.Component.Specifier

namespace DeclBundle.Component

variable {quote : Char} {s t : List Char}

theorem specifier?_append_newline (other : quote ≠ '\n') (a b : List Char) :
    specifier? quote (a ++ '\n' :: b) =
      (specifier? quote a).map fun (stem, rest) => (stem, rest ++ '\n' :: b) := by
  apply Option.ext
  intro (stem, rest)
  rw [Option.map_eq_some_iff, specifier?_eq_some_iff]
  constructor
  · intro read
    obtain ⟨whole, some, unquoted, oneLine⟩ := read
    rcases cut_behind oneLine whole.symm with ⟨-, same⟩ | ⟨more, front, behind⟩
    · exact absurd same other
    · have inLine : specifier? quote a = .some (stem, more) :=
        specifier?_eq_some_iff.mpr ⟨front, some, unquoted, oneLine⟩
      exact ⟨(stem, more), inLine, by rw [behind]⟩
  · intro read
    obtain ⟨⟨stem', more⟩, inLine, same⟩ := read
    obtain ⟨rfl, rfl⟩ := Prod.mk.inj same
    obtain ⟨rfl, some, unquoted, oneLine⟩ := specifier?_eq_some_iff.mp inLine
    exact ⟨by simp, some, unquoted, oneLine⟩

theorem cleanSpecifiers_append_newline (a b : List Char) :
    cleanSpecifiers (a ++ '\n' :: b) = cleanSpecifiers a ++ '\n' :: cleanSpecifiers b := by
  have other {quote : Char} (quoting : isQuote quote) : quote ≠ '\n' := by
    rintro rfl
    exact absurd quoting (by decide)
  induction a using cleanSpecifiers.induct with
  | case1 => rw [List.nil_append, cleanSpecifiers_of_not_isQuote (by decide), cleanSpecifiers, List.nil_append]
  | case2 c s quoting stem rest read shorter ih =>
    have whole : specifier? c (s ++ '\n' :: b) = some (stem, rest ++ '\n' :: b) := by
      rw [specifier?_append_newline (other quoting), read, Option.map_some]
    rw [List.cons_append, cleanSpecifiers_of_some quoting whole, ih, cleanSpecifiers_of_some quoting read]
    simp
  | case3 c s quoting none ih =>
    have whole : specifier? c (s ++ '\n' :: b) = Option.none := by
      rw [specifier?_append_newline (other quoting), none, Option.map_none]
    rw [List.cons_append, cleanSpecifiers_of_none whole, ih, cleanSpecifiers_of_none none, List.cons_append]
  | case4 c s plain ih =>
    rw [List.cons_append, cleanSpecifiers_of_not_isQuote plain, ih, cleanSpecifiers_of_not_isQuote plain,
      List.cons_append]

inductive Erases : List Char → List Char → Prop
  | nil : Erases [] []
  | keep (c : Char) {s t : List Char} (rest : Erases s t) : Erases (c :: s) (c :: t)
  | drop {quote : Char} (quoting : isQuote quote) {s t : List Char} (rest : Erases (quote :: s) t) :
    Erases (mark ++ quote :: s) t

theorem Erases.append {front : List Char} (rest : Erases s t) : Erases (front ++ s) (front ++ t) := by
  induction front with
  | nil => exact rest
  | cons c front ih => exact .keep c ih

theorem erases_cleanSpecifiers (s : List Char) : Erases s (cleanSpecifiers s) := by
  induction s using cleanSpecifiers.induct with
  | case1 =>
    rw [cleanSpecifiers]
    exact .nil
  | case2 c s quoting stem rest read shorter ih =>
    obtain ⟨whole, -⟩ := specifier?_eq_some_iff.mp read
    rw [cleanSpecifiers_of_some quoting read, whole, List.append_assoc, List.cons_append]
    apply Erases.keep
    apply Erases.append
    exact .drop quoting (.keep c ih)
  | case3 c s quoting none ih =>
    rw [cleanSpecifiers_of_none none]
    exact .keep c ih
  | case4 c s plain ih =>
    rw [cleanSpecifiers_of_not_isQuote plain]
    exact .keep c ih

/-- The lines of a text are cleaned one by one, and what is left of it is the text without some marks, each of
which stood in front of a quote. -/
theorem cleanImports_lines :
    (∀ a b : String, cleanImports (a ++ "\n" ++ b) = cleanImports a ++ "\n" ++ cleanImports b) ∧
      ∀ text : String, Erases text.toList (cleanImports text).toList := by
  constructor
  · intro a b
    unfold cleanImports
    have cut : (a ++ "\n" ++ b).toList = a.toList ++ '\n' :: b.toList := by simp
    rw [cut, cleanSpecifiers_append_newline, ← String.toList_inj]
    simp
  · intro text
    unfold cleanImports
    rw [String.toList_ofList]
    exact erases_cleanSpecifiers text.toList

end DeclBundle.Component
