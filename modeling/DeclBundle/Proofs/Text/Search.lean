import DeclBundle.Text.Search
import Mathlib.Data.List.Infix
import Mathlib.Data.List.TakeWhile

namespace DeclBundle

namespace Text

theorem infix_append_cons_iff {needle : List Char} {c : Char} (clean : c ∉ needle) (a b : List Char) :
    needle <:+: a ++ c :: b ↔ needle <:+: a ∨ needle <:+: b := by
  constructor
  · intro found
    obtain ⟨front, back, whole⟩ := found
    rcases List.append_eq_append_iff.mp whole.symm with ⟨more, parts, rest⟩ | ⟨more, parts, -⟩
    · cases more with
      | nil => exact .inl ⟨front, [], by simpa using parts⟩
      | cons d more =>
        obtain ⟨rfl, rfl⟩ := List.cons.inj rest
        rcases List.append_eq_append_iff.mp parts with ⟨inner, -, across⟩ | ⟨inner, -, later⟩
        · exact absurd (by simp [across]) clean
        · cases inner with
          | nil => exact absurd (List.mem_of_mem_head? (by rw [← List.nil_append needle, ← later]; rfl)) clean
          | cons e inner => exact .inr ⟨inner, back, by rw [(List.cons.inj later).2]; rfl⟩
    · exact .inl ⟨front, more, parts.symm⟩
  · intro side
    rcases side with inFront | behind
    · exact inFront.trans (List.prefix_append ..).isInfix
    · exact behind.trans ((List.suffix_cons c b).trans (List.suffix_append ..)).isInfix

theorem infix_cons_iff_of_not_mem {needle : List Char} {c : Char} (some : needle ≠ []) (clean : c ∉ needle)
    (b : List Char) : needle <:+: c :: b ↔ needle <:+: b := by
  have cut := infix_append_cons_iff clean [] b
  rwa [List.nil_append, List.infix_nil, iff_false_intro some, false_or] at cut

theorem infix_around_iff {u v a b : List Char} {c : Char} (before : c ∉ a) (after : c ∉ b) :
    u ++ c :: v <:+: a ++ c :: b ↔ u <:+ a ∧ v <+: b := by
  constructor
  · intro found
    obtain ⟨front, back, whole⟩ := found
    have cut : (front ++ u) ++ c :: (v ++ back) = a ++ c :: b := by simpa using whole
    rcases List.append_eq_append_iff.mp cut with ⟨more, parts, rest⟩ | ⟨more, parts, rest⟩
    · cases more with
      | nil => exact ⟨⟨front, by simpa using parts.symm⟩, ⟨back, (List.cons.inj rest).2⟩⟩
      | cons d more => exact absurd (by simp [parts, (List.cons.inj rest).1]) before
    · cases more with
      | nil => exact ⟨⟨front, by simpa using parts⟩, ⟨back, (List.cons.inj rest).2.symm⟩⟩
      | cons d more => exact absurd (by simp [(List.cons.inj rest).2]) after
  · intro sides
    obtain ⟨⟨front, rfl⟩, ⟨back, rfl⟩⟩ := sides
    exact ⟨front, back, by simp⟩

theorem suffix_append_cons_iff {ending : List Char} {c : Char} (clean : c ∉ ending) (a b : List Char) :
    ending <:+ a ++ c :: b ↔ ending <:+ b := by
  constructor
  · intro suffix
    obtain ⟨front, whole⟩ := suffix
    rcases List.append_eq_append_iff.mp whole with ⟨more, -, inner⟩ | ⟨more, -, inner⟩
    · exact absurd (by simp [inner]) clean
    · cases more with
      | nil =>
        have whole : ending = c :: b := inner.symm
        exact absurd (by simp [whole]) clean
      | cons d more => exact ⟨more, (List.cons.inj inner).2.symm⟩
  · intro suffix
    exact suffix.trans ((List.suffix_cons _ _).trans (List.suffix_append ..))

theorem cut_iff {p : Char → Bool} {s front rest : List Char} {c : Char} :
    s.takeWhile p = front ∧ s.dropWhile p = c :: rest ↔
      s = front ++ c :: rest ∧ (∀ d ∈ front, p d) ∧ ¬p c := by
  constructor
  · intro cut
    obtain ⟨rfl, dropped⟩ := cut
    have stops := List.head?_dropWhile_not p s
    rw [dropped] at stops
    refine ⟨?_, fun d member => List.mem_takeWhile_imp member, by simpa using stops⟩
    rw [← dropped, List.takeWhile_append_dropWhile]
  · intro written
    obtain ⟨rfl, within, stops⟩ := written
    rw [List.takeWhile_append_of_pos within, List.takeWhile_cons_of_neg stops,
      List.dropWhile_append_of_pos within, List.dropWhile_cons_of_neg stops, List.append_nil]
    exact ⟨rfl, rfl⟩

theorem takeWhile_append_cons {p : Char → Bool} {c : Char} (stops : ¬p c) (s rest : List Char) :
    (s ++ c :: rest).takeWhile p = s.takeWhile p := by
  rw [List.takeWhile_append, List.takeWhile_cons_of_neg stops, List.append_nil]
  split
  · rename_i all
    exact (List.Sublist.eq_of_length (List.takeWhile_sublist p) all).symm
  · rfl

theorem takeWhile_append_of_stops {p : Char → Bool} {front rest : List Char} (within : ∀ c ∈ front, p c)
    (stops : ∀ c ∈ rest.head?, ¬p c) : (front ++ rest).takeWhile p = front := by
  cases rest with
  | nil => rw [List.append_nil, List.takeWhile_eq_self_iff.mpr within]
  | cons c rest => rw [takeWhile_append_cons (stops c rfl), List.takeWhile_eq_self_iff.mpr within]

theorem dropWhile_append_cons {p : Char → Bool} {c : Char} (stops : ¬p c) (s rest : List Char) :
    (s ++ c :: rest).dropWhile p = s.dropWhile p ++ c :: rest := by
  rw [List.dropWhile_append, List.dropWhile_cons_of_neg stops]
  split
  · rename_i none
    rw [List.isEmpty_iff.mp none, List.nil_append]
  · rfl

theorem dropHead?_append_cons {head : List Char} {c : Char} (clean : c ∉ head) (s rest : List Char) :
    dropHead? head (s ++ c :: rest) = (dropHead? head s).map (· ++ c :: rest) := by
  induction head generalizing s with
  | nil => rfl
  | cons a head ih =>
    have other : a ≠ c := fun same => clean (by simp [same])
    cases s with
    | nil => simp [dropHead?, other]
    | cons d s =>
      rw [List.cons_append, dropHead?, dropHead?]
      split
      · exact ih (fun member => clean (List.mem_cons_of_mem a member)) s
      · rfl

/-- A text whose first character comes but once cannot begin before another such character and end behind it. -/
theorem prefix_append_iff {c : Char} {tail : List Char} (once : c ∉ tail) {front rest : List Char}
    (some : front ≠ []) (next : ∀ d ∈ rest.head?, d = c) :
    c :: tail <+: front ++ rest ↔ c :: tail <+: front := by
  constructor
  · intro found
    rcases List.prefix_or_prefix_of_prefix found (List.prefix_append front rest) with within | across
    · exact within
    · obtain ⟨more, whole⟩ := across
      obtain ⟨d, front, rfl⟩ := List.exists_cons_of_ne_nil some
      obtain ⟨rfl, rfl⟩ := List.cons.inj whole
      cases more with
      | nil => simp
      | cons e more =>
        have goesOn : e :: more <+: rest := (List.prefix_append_right_inj (d :: front)).mp (by simpa using found)
        obtain ⟨back, rfl⟩ := goesOn
        have same : e = d := next e rfl
        exact absurd (by simp [same]) once
  · intro within
    exact within.trans (List.prefix_append front rest)

end Text

end DeclBundle
