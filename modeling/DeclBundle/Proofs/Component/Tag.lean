import DeclBundle.Proofs.Component.Attributes
import Mathlib.Tactic.MkIffOfInductiveProp

namespace DeclBundle.Component

def isGap (c : Char) : Bool := Text.isBlank c && c.toNat < 128

def isOfName (c : Char) : Bool := !Text.isBlank c && c != '"' && c != '\'' && c != '>' && c != '/' && c != '='

theorem isBlank_of_isGap {c : Char} (gap : isGap c) : Text.isBlank c := by
  simp only [isGap, Bool.and_eq_true] at gap
  exact gap.1

theorem not_isWord_of_isGap {c : Char} (gap : isGap c) : ¬Unicode.isWord c := by
  have controls : ∀ n < 33, ¬Unicode.isWord (Char.ofNat n) := by decide +kernel
  simp only [isGap, Text.isBlank, Bool.and_eq_true, Bool.or_eq_true, decide_eq_true_eq, beq_iff_eq] at gap
  obtain ⟨blank, ascii⟩ := gap
  have below : c.toNat < 33 := by omega
  rw [← Char.ofNat_toNat c]
  exact controls c.toNat below

theorem not_isBlank_of_isOfName {c : Char} (named : isOfName c) : ¬Text.isBlank c := by
  intro blank
  simp [isOfName, blank] at named

structure Attribute where
  gap : List Char
  name : List Char
  value? : Option (List Char)

namespace Attribute

def assignment : Option (List Char) → List Char
  | none => []
  | some value => '=' :: '"' :: (value ++ ['"'])

@[mk_iff]
structure Proper (a : Attribute) : Prop where
  apart : a.gap ≠ []
  gap : ∀ c ∈ a.gap, isGap c
  named : a.name ≠ []
  name : ∀ c ∈ a.name, isOfName c
  value : ∀ value ∈ a.value?, '"' ∉ value

instance (a : Attribute) : Decidable a.Proper :=
  decidable_of_iff
    (a.gap ≠ [] ∧ a.gap.all isGap ∧ a.name ≠ [] ∧ a.name.all isOfName ∧ ∀ value ∈ a.value?, '"' ∉ value)
    (by rw [List.all_eq_true, List.all_eq_true, a.proper_iff])

end Attribute

def tag : List Attribute → List Char → List Char
  | [], last => last
  | a :: attributes, last => a.gap ++ (a.name ++ (Attribute.assignment a.value? ++ tag attributes last))

section Follows

structure Follows (rest : List Char) : Prop where
  gap : ∀ c ∈ rest.head?, isGap c
  ends : (rest.dropWhile Text.isBlank).head? ≠ some '='

def EndsName (rest : List Char) : Prop := ∀ c ∈ rest.head?, c = '=' ∨ Text.isBlank c

variable {attributes : List Attribute} {last : List Char}

theorem Follows.endsName {rest : List Char} (follows : Follows rest) (value? : Option (List Char)) :
    EndsName (Attribute.assignment value? ++ rest) := by
  cases value? with
  | none => exact fun c first => .inr (isBlank_of_isGap (follows.gap c first))
  | some value => simp [EndsName, Attribute.assignment]

theorem name_eq_of_append_eq {name rest name' rest' : List Char} (named : ∀ c ∈ name, isOfName c)
    (ends : EndsName rest) (named' : ∀ c ∈ name', isOfName c) (ends' : EndsName rest')
    (same : name ++ rest = name' ++ rest') : name = name' := by
  have outside {rest : List Char} (ends : EndsName rest) : ∀ c ∈ rest.head?, ¬isOfName c := by
    intro c first named
    rcases ends c first with rfl | blank
    · exact absurd named (by decide)
    · exact not_isBlank_of_isOfName named blank
  have taken := congrArg (List.takeWhile isOfName) same
  rwa [Text.takeWhile_append_of_stops named (outside ends),
    Text.takeWhile_append_of_stops named' (outside ends')] at taken

theorem follows_tag (proper : ∀ a ∈ attributes, a.Proper) (blank : ∀ c ∈ last, isGap c) :
    Follows (tag attributes last) := by
  cases attributes with
  | nil =>
    have nothing : last.dropWhile Text.isBlank = [] := by
      rw [List.dropWhile_eq_nil_iff]
      exact fun c member => isBlank_of_isGap (blank c member)
    exact ⟨fun c first => blank c (List.mem_of_mem_head? first), by simp [tag, nothing]⟩
  | cons a attributes =>
    obtain ⟨apart, gap, named, name, -⟩ := proper a List.mem_cons_self
    constructor
    · intro c first
      apply gap
      rw [tag, List.head?_append_of_ne_nil _ apart] at first
      exact List.mem_of_mem_head? first
    · obtain ⟨c, behind, whole⟩ := List.exists_cons_of_ne_nil named
      have first : isOfName c := name c (by simp [whole])
      rw [tag, List.dropWhile_append_of_pos fun c member => isBlank_of_isGap (gap c member), whole, List.cons_append,
        List.dropWhile_cons_of_neg (not_isBlank_of_isOfName first)]
      intro sign
      obtain rfl := Option.some.inj sign
      exact absurd first (by decide)

end Follows

section Setup

/-- A value in which `setup` stands behind a blank, and before another one or an equals sign. -/
def Mentions (value : List Char) : Prop :=
  ∃ front b c back, value = front ++ b :: (setupWord ++ c :: back) ∧ Text.isBlank b ∧ (c = '=' ∨ Text.isBlank c)

theorem mentions_cons_iff (b : Char) (value : List Char) : Mentions (b :: value) ↔
    (Text.isBlank b ∧ ∃ c back, value = setupWord ++ c :: back ∧ (c = '=' ∨ Text.isBlank c)) ∨ Mentions value := by
  constructor
  · intro mentions
    obtain ⟨front, b', c, back, whole, blank, ends⟩ := mentions
    cases front with
    | nil =>
      obtain ⟨rfl, rfl⟩ := List.cons.inj whole
      exact .inl ⟨blank, c, back, rfl, ends⟩
    | cons d front => exact .inr ⟨front, b', c, back, (List.cons.inj whole).2, blank, ends⟩
  · intro mentions
    rcases mentions with ⟨blank, c, back, rfl, ends⟩ | ⟨front, b', c, back, rfl, blank, ends⟩
    · exact ⟨[], b, c, back, rfl, blank, ends⟩
    · exact ⟨b :: front, b', c, back, rfl, blank, ends⟩

theorem isOfName_of_mem_setupWord : ∀ c ∈ setupWord, isOfName c := by
  have named : setupWord.all isOfName := by decide
  exact List.all_eq_true.mp named

theorem setupAt_name_iff {name rest : List Char} (named : ∀ c ∈ name, isOfName c) (ends : EndsName rest) :
    setupAt (name ++ rest) ↔ name = setupWord := by
  rw [setupAt_iff]
  constructor
  · intro found
    obtain ⟨back, same, ends'⟩ := found
    exact name_eq_of_append_eq named ends isOfName_of_mem_setupWord ends' same
  · rintro rfl
    exact ⟨rest, rfl, ends⟩

theorem setupAt_nil : setupAt [] = false := rfl

theorem not_setupAt_of_isBlank {c : Char} (blank : Text.isBlank c) (s : List Char) : ¬setupAt (c :: s) := by
  rw [setupAt_iff]
  intro found
  obtain ⟨back, same, -⟩ := found
  have start : setupWord.head? = some 's' := rfl
  have first : (setupWord ++ back).head? = some 's' := by simp [List.head?_append, start]
  rw [← same] at first
  obtain rfl := Option.some.inj first
  exact absurd blank (by decide)

theorem setupAfterBlank_append_of_unblank {front : List Char} (unblank : ∀ c ∈ front, ¬Text.isBlank c)
    (s : List Char) : setupAfterBlank (front ++ s) = setupAfterBlank s := by
  induction front with
  | nil => rfl
  | cons c front ih =>
    rw [List.cons_append, setupAfterBlank, Bool.eq_false_iff.mpr (unblank c List.mem_cons_self), Bool.false_and,
      Bool.false_or, ih fun c member => unblank c (List.mem_cons_of_mem _ member)]

theorem setupAfterBlank_append_of_blank {gap : List Char} (apart : gap ≠ [])
    (blank : ∀ c ∈ gap, Text.isBlank c) (s : List Char) :
    setupAfterBlank (gap ++ s) = (setupAt s || setupAfterBlank s) := by
  induction gap with
  | nil => contradiction
  | cons c gap ih =>
    rw [List.cons_append, setupAfterBlank, blank c List.mem_cons_self, Bool.true_and]
    cases gap with
    | nil => rfl
    | cons d gap =>
      have unread := not_setupAt_of_isBlank (blank d (by simp)) (gap ++ s)
      rw [List.cons_append, Bool.eq_false_iff.mpr unread, Bool.false_or, ← List.cons_append]
      exact ih (by simp) fun c member => blank c (List.mem_cons_of_mem _ member)

theorem setupAt_quoted_iff (s rest : List Char) :
    setupAt (s ++ '"' :: rest) ↔ ∃ c back, s = setupWord ++ c :: back ∧ (c = '=' ∨ Text.isBlank c) := by
  have plain : '"' ∉ setupWord := by decide
  rw [setupAt_iff]
  constructor
  · intro found
    obtain ⟨back, same, ends⟩ := found
    have word := Text.dropHead?_append_cons plain s rest
    rw [Text.dropHead?_eq_some.mpr same] at word
    obtain ⟨inner, within, rfl⟩ := Option.map_eq_some_iff.mp word.symm
    cases inner with
    | nil => exact absurd (ends '"' rfl) (by decide)
    | cons c inner => exact ⟨c, inner, Text.dropHead?_eq_some.mp within, ends c rfl⟩
  · intro found
    obtain ⟨c, back, rfl, ends⟩ := found
    exact ⟨c :: back ++ '"' :: rest, by simp, by simpa using ends⟩

theorem setupAfterBlank_quoted_iff (value rest : List Char) :
    setupAfterBlank (value ++ '"' :: rest) ↔ Mentions value ∨ setupAfterBlank rest := by
  induction value with
  | nil =>
    have unmentioned : ¬Mentions [] := by simp [Mentions]
    have signs : ∀ c ∈ ['"'], ¬Text.isBlank c := List.any_eq_false.mp (by decide)
    have skipped := setupAfterBlank_append_of_unblank signs rest
    rw [List.nil_append, ← List.singleton_append, skipped, iff_false_intro unmentioned, false_or]
  | cons b value ih =>
    rw [List.cons_append, setupAfterBlank, Bool.or_eq_true, Bool.and_eq_true, setupAt_quoted_iff, ih,
      mentions_cons_iff, or_assoc]

variable {attributes : List Attribute} {last : List Char}

theorem setupAfterBlank_assignment_iff (value? : Option (List Char)) (rest : List Char) :
    setupAfterBlank (Attribute.assignment value? ++ rest) ↔
      (∃ value ∈ value?, Mentions value) ∨ setupAfterBlank rest := by
  cases value? with
  | none => simp [Attribute.assignment]
  | some value =>
    have signs : ∀ c ∈ ['=', '"'], ¬Text.isBlank c := List.any_eq_false.mp (by decide)
    have written : Attribute.assignment (some value) ++ rest = ['=', '"'] ++ (value ++ '"' :: rest) := by
      simp [Attribute.assignment]
    rw [written, setupAfterBlank_append_of_unblank signs, setupAfterBlank_quoted_iff]
    simp

theorem setupAfterBlank_tag_iff (proper : ∀ a ∈ attributes, a.Proper) (blank : ∀ c ∈ last, isGap c) :
    setupAfterBlank (tag attributes last) ↔
      ∃ a ∈ attributes, a.name = setupWord ∨ ∃ value ∈ a.value?, Mentions value := by
  induction attributes with
  | nil =>
    have none : setupAfterBlank last = false := by
      by_cases empty : last = []
      · rw [empty, setupAfterBlank]
      · have skipped := setupAfterBlank_append_of_blank empty (fun c member => isBlank_of_isGap (blank c member)) []
        rw [List.append_nil] at skipped
        rw [skipped, setupAt_nil, setupAfterBlank, Bool.or_false]
    simp [tag, none]
  | cons a attributes ih =>
    obtain ⟨apart, gap, -, name, -⟩ := proper a List.mem_cons_self
    have proper' : ∀ a ∈ attributes, a.Proper := fun a member => proper a (List.mem_cons_of_mem _ member)
    have ends := (follows_tag proper' blank).endsName a.value?
    rw [tag, setupAfterBlank_append_of_blank apart fun c member => isBlank_of_isGap (gap c member),
      setupAfterBlank_append_of_unblank fun c member => not_isBlank_of_isOfName (name c member),
      Bool.or_eq_true, setupAt_name_iff name ends, setupAfterBlank_assignment_iff, ih proper']
    simp [or_assoc]

theorem isSetup_tag_iff (proper : ∀ a ∈ attributes, a.Proper) (blank : ∀ c ∈ last, isGap c) :
    isSetup (tag attributes last) ↔
      ∃ a ∈ attributes, a.name = setupWord ∨ ∃ value ∈ a.value?, Mentions value := by
  have start : ¬setupAt (tag attributes last) := by
    have gap := (follows_tag proper blank).gap
    cases written : tag attributes last with
    | nil => simp [setupAt_nil]
    | cons c rest =>
      rw [written] at gap
      exact not_setupAt_of_isBlank (isBlank_of_isGap (gap c rfl)) rest
  rw [isSetup, Bool.eq_false_iff.mpr start, Bool.false_or, setupAfterBlank_tag_iff proper blank]

end Setup

end DeclBundle.Component
