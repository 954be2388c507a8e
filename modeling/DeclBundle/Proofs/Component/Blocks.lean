import DeclBundle.Component.Script
import DeclBundle.Proofs.Text.Search

namespace DeclBundle.Component

def opening : List Char := ['<', 's', 'c', 'r', 'i', 'p', 't']

def ending : List Char := ['<', '/', 's', 'c', 'r', 'i', 'p', 't']

theorem opening_cons : ∃ tail, opening = '<' :: tail ∧ '<' ∉ tail :=
  ⟨['s', 'c', 'r', 'i', 'p', 't'], rfl, by decide⟩

theorem ending_cons : ∃ tail, ending = '<' :: tail ∧ '<' ∉ tail :=
  ⟨['/', 's', 'c', 'r', 'i', 'p', 't'], rfl, by decide⟩

def closing (gap : List Char) : List Char := ending ++ gap ++ ['>']

theorem closing_cons {gap : List Char} (blank : ∀ c ∈ gap, Text.isBlank c) :
    ∃ tail, closing gap = '<' :: tail ∧ '<' ∉ tail := by
  obtain ⟨tail, start, once⟩ := ending_cons
  have unblank : '<' ∉ gap := fun member => absurd (blank '<' member) (by decide)
  exact ⟨tail ++ gap ++ ['>'], by simp [closing, start], by simp [once, unblank]⟩

def Closes (s : List Char) : Prop := ∃ gap, (∀ c ∈ gap, Text.isBlank c) ∧ closing gap <:+: s

theorem Closes.ending {s : List Char} (closes : Closes s) : ending <:+: s := by
  obtain ⟨gap, -, found⟩ := closes
  have start : Component.ending <+: closing gap := ⟨gap ++ ['>'], by simp [closing]⟩
  exact start.isInfix.trans found

theorem endsWord_append_tag (attributes rest : List Char) :
    endsWord (attributes ++ '>' :: rest) = endsWord attributes := by
  cases attributes with
  | nil => simp only [List.nil_append, endsWord]; decide
  | cons c attributes => rfl

theorem openingTag?_eq_some_iff {s attributes rest : List Char} :
    openingTag? s = some (attributes, rest) ↔
      s = opening ++ (attributes ++ '>' :: rest) ∧ '>' ∉ attributes ∧ endsWord attributes := by
  have inTag : (∀ c ∈ attributes, (c != '>') = true) ↔ '>' ∉ attributes := by
    simp only [bne_iff_ne]
    exact ⟨fun other member => other _ member rfl, fun other c member same => other (same ▸ member)⟩
  have begins : "<script".toList = opening := rfl
  unfold openingTag?
  rw [begins]
  constructor
  · intro read
    split at read
    · cases read
    · rename_i behind found
      split at read
      · cases read
      · rename_i word
        split at read
        · cases read
        · rename_i c tail dropped
          obtain ⟨taken, rfl⟩ := Prod.mk.inj (Option.some.inj read)
          obtain ⟨whole, within, stops⟩ := Text.cut_iff.mp ⟨taken, dropped⟩
          obtain rfl : c = '>' := by simpa using stops
          rw [whole, endsWord_append_tag] at word
          refine ⟨?_, inTag.mp within, by simpa using word⟩
          rw [Text.dropHead?_eq_some.mp found, whole]
  · intro written
    obtain ⟨rfl, within, word⟩ := written
    have found : Text.dropHead? opening (opening ++ (attributes ++ '>' :: rest)) =
        some (attributes ++ '>' :: rest) := Text.dropHead?_eq_some.mpr rfl
    obtain ⟨taken, dropped⟩ : (attributes ++ '>' :: rest).takeWhile (· != '>') = attributes ∧
        (attributes ++ '>' :: rest).dropWhile (· != '>') = '>' :: rest :=
      Text.cut_iff.mpr ⟨rfl, inTag.mpr within, by simp⟩
    simp only [found, endsWord_append_tag, word, taken, dropped, Bool.not_true, Bool.false_eq_true, if_false]

theorem closingTag?_eq_some_iff {s rest : List Char} :
    closingTag? s = some rest ↔ ∃ gap, (∀ c ∈ gap, Text.isBlank c) ∧ s = closing gap ++ rest := by
  have begins : "</script".toList = ending := rfl
  unfold closingTag?
  rw [begins]
  constructor
  · intro read
    split at read
    · cases read
    · rename_i behind found
      split at read
      · rename_i tail dropped
        rw [Option.some.inj read] at dropped
        obtain ⟨whole, blank, -⟩ := Text.cut_iff.mp ⟨rfl, dropped⟩
        refine ⟨behind.takeWhile Text.isBlank, blank, ?_⟩
        rw [Text.dropHead?_eq_some.mp found]
        nth_rewrite 1 [whole]
        simp only [closing, List.append_assoc, List.singleton_append]
      · cases read
  · intro written
    obtain ⟨gap, blank, rfl⟩ := written
    have found : Text.dropHead? ending (closing gap ++ rest) = some (gap ++ '>' :: rest) :=
      Text.dropHead?_eq_some.mpr (by simp [closing])
    have dropped : (gap ++ '>' :: rest).dropWhile Text.isBlank = '>' :: rest :=
      (Text.cut_iff.mpr ⟨rfl, blank, by decide⟩).2
    simp only [found, dropped]

theorem closingTag?_append {body gap : List Char} (some : body ≠ []) (unclosed : ¬Closes body)
    (blank : ∀ c ∈ gap, Text.isBlank c) (rest : List Char) : closingTag? (body ++ (closing gap ++ rest)) = none := by
  rw [Option.eq_none_iff_forall_ne_some]
  intro behind read
  obtain ⟨gap', blank', whole⟩ := closingTag?_eq_some_iff.mp read
  obtain ⟨tail, start, -⟩ := closing_cons blank
  obtain ⟨tail', start', once⟩ := closing_cons blank'
  have found : closing gap' <+: body ++ (closing gap ++ rest) := ⟨behind, whole.symm⟩
  -- A closing tag that began in the body would reach the next `<`, and holds but one.
  have within : closing gap' <+: body := by
    rw [start'] at found ⊢
    apply (Text.prefix_append_iff once some _).mp found
    simp [start]
  exact unclosed ⟨gap', blank', within.isInfix⟩

theorem body?_append {body gap : List Char} (unclosed : ¬Closes body) (blank : ∀ c ∈ gap, Text.isBlank c)
    (rest : List Char) : body? (body ++ (closing gap ++ rest)) = some (body, rest) := by
  induction body with
  | nil =>
    have read : closingTag? (closing gap ++ rest) = some rest :=
      closingTag?_eq_some_iff.mpr ⟨gap, blank, rfl⟩
    obtain ⟨tail, start, -⟩ := closing_cons blank
    rw [start, List.cons_append] at read
    rw [List.nil_append, start, List.cons_append, body?, read]
  | cons c body ih =>
    have none := closingTag?_append (List.cons_ne_nil c body) unclosed blank rest
    rw [List.cons_append] at none
    have unclosed' : ¬Closes body := by
      intro closed
      obtain ⟨gap', blank', found⟩ := closed
      exact unclosed ⟨gap', blank', found.trans (List.suffix_cons c body).isInfix⟩
    rw [List.cons_append, body?, none, ih unclosed']
    rfl

structure Element extends Block where
  gap : List Char

namespace Element

def text (e : Element) : List Char := opening ++ e.attributes ++ '>' :: (e.body ++ closing e.gap)

/-- The word of the tag ends before the attributes, the tag with the first `>`, and the body with the first
closing tag. -/
structure Proper (e : Element) : Prop where
  word : endsWord e.attributes
  inTag : '>' ∉ e.attributes
  unclosed : ¬Closes e.body
  blank : ∀ c ∈ e.gap, Text.isBlank c

theorem Proper.block?_text {e : Element} (proper : e.Proper) (rest : List Char) :
    block? (e.text ++ rest) = some (e.toBlock, rest) := by
  have tag : openingTag? (e.text ++ rest) = some (e.attributes, e.body ++ (closing e.gap ++ rest)) := by
    rw [openingTag?_eq_some_iff]
    exact ⟨by simp [text], proper.inTag, proper.word⟩
  unfold block?
  rw [tag]
  simp only [body?_append proper.unclosed proper.blank, Option.map_some]

end Element

theorem blocks_of_some {s rest : List Char} {b : Block} (read : block? s = some (b, rest)) :
    blocks s = b :: blocks rest := by
  cases s with
  | nil => cases read
  | cons c s =>
    rw [blocks]
    split
    · rename_i b' rest' same
      obtain ⟨rfl, rfl⟩ := Prod.mk.inj (Option.some.inj (read.symm.trans same))
      rfl
    · rename_i none
      cases read.symm.trans none

theorem blocks_of_none {c : Char} {s : List Char} (none : block? (c :: s) = none) :
    blocks (c :: s) = blocks s := by
  rw [blocks]
  split
  · rename_i same
    cases none.symm.trans same
  · rfl

/-- No tag opens in plain text, nor does one begin there and go on in the element that follows. -/
theorem blocks_append_of_plain {plain rest : List Char} (unopened : ¬opening <:+: plain)
    (next : ∀ c ∈ rest.head?, c = '<') : blocks (plain ++ rest) = blocks rest := by
  induction plain with
  | nil => rfl
  | cons c plain ih =>
    obtain ⟨tail, start, once⟩ := opening_cons
    have unread : openingTag? (c :: plain ++ rest) = none := by
      rw [Option.eq_none_iff_forall_ne_some]
      intro (attributes, behind) read
      obtain ⟨whole, -⟩ := openingTag?_eq_some_iff.mp read
      have found : opening <+: c :: plain ++ rest := ⟨_, whole.symm⟩
      have within : opening <+: c :: plain := by
        rw [start] at found ⊢
        exact (Text.prefix_append_iff once (by simp) next).mp found
      exact unopened within.isInfix
    have none : block? (c :: (plain ++ rest)) = Option.none := by
      unfold block?
      rw [← List.cons_append, unread]
    rw [List.cons_append, blocks_of_none none]
    exact ih fun found => unopened (found.trans (List.suffix_cons c plain).isInfix)

def layout : List Char → List (Element × List Char) → List Char
  | plain, [] => plain
  | plain, (e, after) :: parts => plain ++ (e.text ++ layout after parts)

theorem blocks_layout {plain : List Char} {parts : List (Element × List Char)} (unopened : ¬opening <:+: plain)
    (proper : ∀ part ∈ parts, part.1.Proper ∧ ¬opening <:+: part.2) :
    blocks (layout plain parts) = parts.map fun part => part.1.toBlock := by
  induction parts generalizing plain with
  | nil =>
    have next : ∀ c ∈ ([] : List Char).head?, c = '<' := by simp
    have all := blocks_append_of_plain unopened next
    rwa [List.append_nil, blocks] at all
  | cons part parts ih =>
    obtain ⟨e, after⟩ := part
    obtain ⟨element, unopened'⟩ := proper (e, after) List.mem_cons_self
    obtain ⟨tail, start, -⟩ := opening_cons
    rw [layout, blocks_append_of_plain unopened (by simp [Element.text, start]),
      blocks_of_some (element.block?_text _), ih unopened' fun part member => proper part (by simp [member]),
      List.map_cons]

theorem Element.Proper.blocks_text {e : Element} (proper : e.Proper) : blocks e.text = [e.toBlock] := by
  have read := proper.block?_text []
  rw [List.append_nil] at read
  rw [blocks_of_some read, blocks]

end DeclBundle.Component
