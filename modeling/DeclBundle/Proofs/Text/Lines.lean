import DeclBundle.Text.Blank
import DeclBundle.Text.Lines
import Mathlib.Data.List.Basic

namespace DeclBundle.Text

theorem splitOn_append_of_not_mem {c : Char} {front : List Char} (clean : c ∉ front) (s : List Char) :
    (front ++ s).splitOn c = (s.splitOn c).modifyHead (front ++ ·) := by
  induction front with
  | nil => cases pieces : s.splitOn c <;> simp [pieces]
  | cons d front ih =>
    have other : d ≠ c := fun same => clean (by simp [same])
    have rest : c ∉ front := fun member => clean (List.mem_cons_of_mem d member)
    rw [List.cons_append, List.splitOn_cons_eq_if_modifyHead, if_neg (by simpa using other), ih rest]
    cases s.splitOn c <;> rfl

theorem splitOn_intercalate_texts (c : Char) {texts : List (List Char)} (some : texts ≠ []) :
    ([c].intercalate texts).splitOn c = texts.flatMap (·.splitOn c) := by
  induction texts with
  | nil => exact absurd rfl some
  | cons text texts ih =>
    by_cases last : texts = []
    · simp [last]
    · rw [List.intercalate_cons_of_ne_nil last, List.append_assoc, List.singleton_append,
        List.splitOn_append_cons_self, ih last, List.flatMap_cons]

theorem intercalate_cons (c : Char) (first : List Char) (rest : List (List Char)) :
    [c].intercalate (first :: rest) = first ++ rest.flatMap (c :: ·) := by
  induction rest generalizing first with
  | nil => simp
  | cons second rest ih =>
    rw [List.intercalate_cons_of_ne_nil (by simp), ih]
    simp

theorem lines_eq_splitOn {s : List Char} (plain : ∀ line ∈ s.splitOn '\n', line.getLast? ≠ some '\r')
    (last : ∀ line ∈ (s.splitOn '\n').getLast?, line ≠ []) : lines s = s.splitOn '\n' := by
  have kept : (s.splitOn '\n').dropLast.map dropReturn = (s.splitOn '\n').dropLast := by
    have same : ∀ line ∈ (s.splitOn '\n').dropLast, dropReturn line = id line :=
      fun line member => if_neg (plain line (List.dropLast_subset _ member))
    rw [List.map_congr_left same, List.map_id]
  rcases List.eq_nil_or_concat (s.splitOn '\n') with none | ⟨front, line, pieces⟩
  · exact absurd none (List.splitOn_ne_nil '\n' s)
  · rw [List.concat_eq_append] at pieces
    have some : line ≠ [] := last line (by simp [pieces])
    unfold lines
    dsimp only
    rw [kept, pieces, List.dropLast_concat, List.getLastD_concat, if_neg (by simpa using some)]

theorem trimEnd_eq_self {s : List Char} (dark : ∀ c ∈ s.getLast?, isBlank c = false) : trimEnd s = s := by
  rcases List.eq_nil_or_concat s with none | ⟨front, c, some⟩
  · simp [none, trimEnd]
  · rw [List.concat_eq_append] at some
    have end_ : isBlank c = false := dark c (by simp [some])
    simp [some, trimEnd, end_]

end DeclBundle.Text
