import DeclBundle.Proofs.Component.Tag

namespace DeclBundle.Component

theorem leading?_append_cons {c : Char} (stops : ¬isLetter c) (s rest : List Char) :
    leading? (s ++ c :: rest) = leading? s := by
  simp only [leading?, Text.takeWhile_append_cons stops]

theorem assigned?_eq_none {s : List Char} (ends : (s.dropWhile Text.isBlank).head? ≠ some '=') :
    assigned? s = none := by
  unfold assigned?
  split
  · rename_i dropped
    exact absurd (by rw [dropped, List.head?_cons]) ends
  · rfl

theorem endsName_of_assigned? {s name : List Char} (assigned : assigned? s = some name) : EndsName s := by
  intro c first
  by_contra other
  push Not at other
  obtain ⟨rest, rfl⟩ := List.head?_eq_some_iff.mp first
  have none : assigned? (c :: rest) = none := by
    apply assigned?_eq_none
    rw [List.dropWhile_cons_of_neg other.2]
    simpa using other.1
  cases none.symm.trans assigned

section Quoted

variable {s rest : List Char}

theorem leading?_unquote_quoted (clean : '"' ∉ s) (next : ∀ c ∈ rest.head?, ¬isLetter c) :
    leading? (unquote (s ++ '"' :: rest)) = leading? (unquote s) := by
  have stops : ¬isLetter '"' := by decide
  cases s with
  | nil =>
    cases rest with
    | nil => rfl
    | cons c rest =>
      have other := next c rfl
      simp [unquote, leading?, other]
  | cons c s =>
    by_cases single : c = '\''
    · subst single
      exact leading?_append_cons stops s rest
    · have double : c ≠ '"' := fun same => clean (by simp [same])
      have kept (s : List Char) : unquote (c :: s) = c :: s := by simp [unquote, single, double]
      rw [List.cons_append, kept, kept, ← List.cons_append, leading?_append_cons stops]

theorem assigned?_quoted (clean : '"' ∉ s) (next : ∀ c ∈ rest.head?, ¬isLetter c) :
    assigned? (s ++ '"' :: rest) = assigned? s := by
  have stops : ¬Text.isBlank '"' := by decide
  unfold assigned?
  rw [Text.dropWhile_append_cons stops]
  cases dropped : s.dropWhile Text.isBlank with
  | nil => rfl
  | cons c behind =>
    by_cases sign : c = '='
    · subst sign
      have clean' : '"' ∉ behind.dropWhile Text.isBlank := by
        intro member
        have inner : '"' ∈ s.dropWhile Text.isBlank := by
          rw [dropped]
          exact List.mem_cons_of_mem _ ((List.dropWhile_sublist _).mem member)
        exact clean ((List.dropWhile_sublist _).mem inner)
      simp only [List.cons_append, Text.dropWhile_append_cons stops]
      exact leading?_unquote_quoted clean' next
    · simp [sign]

theorem langAt?_quoted (clean : '"' ∉ s) (next : ∀ c ∈ rest.head?, ¬isLetter c) :
    langAt? (s ++ '"' :: rest) = langAt? s := by
  have plain : '"' ∉ langWord := by decide
  rw [langAt?_eq, langAt?_eq, Text.dropHead?_append_cons plain]
  cases word : Text.dropHead? langWord s with
  | none => rfl
  | some behind =>
    have whole := Text.dropHead?_eq_some.mp word
    exact assigned?_quoted (fun member => clean (by simp [whole, member])) next

end Quoted

section Skip

variable {s : List Char}

theorem lang?_of_unword {previous : Option Char} (unword : previous.all fun c => !Unicode.isWord c) (s : List Char) :
    lang? previous s = lang? none s := by
  cases s with
  | nil => rfl
  | cons c s => simp only [lang?, unword, Option.all_none]

theorem lang?_append_of_unread {front : List Char}
    (unread : ∀ behind, behind <:+ front → behind ≠ [] → langAt? (behind ++ s) = none) (previous : Option Char) :
    lang? previous (front ++ s) = lang? (front.getLast?.or previous) s := by
  induction front generalizing previous with
  | nil => rfl
  | cons c front ih =>
    have here : langAt? (c :: (front ++ s)) = none := unread (c :: front) List.suffix_rfl (by simp)
    have later : ∀ behind, behind <:+ front → behind ≠ [] → langAt? (behind ++ s) = none :=
      fun behind inner => unread behind (inner.trans (List.suffix_cons c front))
    have last : (c :: front).getLast?.or previous = front.getLast?.or (some c) := by
      rw [List.getLast?_cons]
      cases front.getLast? <;> rfl
    rw [List.cons_append, lang?, here, ite_self, Option.none_or, ih later, last]

theorem langAt?_cons_of_ne {c : Char} (other : c ≠ 'l') (s : List Char) : langAt? (c :: s) = none := by
  rw [langAt?_eq, langWord, Text.dropHead?, if_neg other.symm]
  rfl

theorem langAt?_of_suffix {front behind : List Char} (other : 'l' ∉ front) (suffix : behind <:+ front)
    (some : behind ≠ []) : langAt? (behind ++ s) = none := by
  obtain ⟨c, rest, rfl⟩ := List.exists_cons_of_ne_nil some
  apply langAt?_cons_of_ne
  rintro rfl
  exact other (suffix.mem List.mem_cons_self)

theorem lang?_append_of_unword {front : List Char} (some : front ≠ []) (other : 'l' ∉ front)
    (unword : front.getLast?.all fun c => !Unicode.isWord c) (previous : Option Char) :
    lang? previous (front ++ s) = lang? none s := by
  rw [lang?_append_of_unread fun _ => langAt?_of_suffix other]
  apply lang?_of_unword
  rw [List.getLast?_eq_some_getLast some] at unword ⊢
  exact unword

theorem not_mem_of_isGap {gap : List Char} (blank : ∀ c ∈ gap, isGap c) : 'l' ∉ gap :=
  fun member => absurd (blank 'l' member) (by decide)

theorem lang?_gap_append {gap : List Char} (apart : gap ≠ []) (blank : ∀ c ∈ gap, isGap c)
    (previous : Option Char) : lang? previous (gap ++ s) = lang? none s := by
  have unword : gap.getLast?.all fun c => !Unicode.isWord c := by
    rw [Option.all_eq_true_iff_get]
    intro some
    have word := not_isWord_of_isGap (blank _ (List.mem_of_getLast? (Option.some_get some).symm))
    simpa using word
  exact lang?_append_of_unword apart (not_mem_of_isGap blank) unword previous

theorem Follows.lang?_eq (follows : Follows s) (previous : Option Char) : lang? previous s = lang? none s := by
  cases s with
  | nil => rfl
  | cons c s =>
    have blank : ∀ d ∈ [c], isGap d := by simpa using follows.gap c rfl
    have passed := lang?_gap_append (s := s) (List.cons_ne_nil c []) blank
    exact (passed previous).trans (passed none).symm

end Skip

def endsInLang (name : List Char) : Bool :=
  match Text.dropTail? langWord name with
  | none => false
  | some front => front.getLast?.all fun c => !Unicode.isWord c

section Name

variable {name rest : List Char}

theorem isOfName_of_mem_langWord : ∀ c ∈ langWord, isOfName c := by
  have named : langWord.all isOfName := by decide
  exact List.all_eq_true.mp named

theorem langAt?_name (named : ∀ c ∈ name, isOfName c) (ends : EndsName rest) :
    langAt? (name ++ rest) = if name = langWord then assigned? rest else none := by
  rw [langAt?_eq]
  split
  · rename_i same
    rw [same, Text.dropHead?_eq_some.mpr rfl]
    rfl
  · rename_i other
    rw [Option.eq_none_iff_forall_ne_some]
    intro language read
    obtain ⟨behind, word, assigned⟩ := Option.bind_eq_some_iff.mp read
    apply other
    exact name_eq_of_append_eq named ends isOfName_of_mem_langWord (endsName_of_assigned? assigned)
      (Text.dropHead?_eq_some.mp word)

theorem lang?_langWord_append (complete : EndsName rest) (previous : Option Char) :
    lang? previous (langWord ++ rest) =
      (if previous.all fun c => !Unicode.isWord c then assigned? rest else none).or (lang? (some 'g') rest) := by
  have here : langAt? (langWord ++ rest) = assigned? rest := by
    rw [langAt?_name isOfName_of_mem_langWord complete, if_pos rfl]
  have behind : lang? (some 'l') (['a', 'n', 'g'] ++ rest) = lang? (some 'g') rest :=
    lang?_append_of_unread (fun _ => langAt?_of_suffix (by decide)) (some 'l')
  rw [langWord, List.cons_append] at here ⊢
  rw [lang?, here, behind]

theorem lang?_name (named : ∀ c ∈ name, isOfName c) (complete : EndsName rest) :
    lang? none (name ++ rest) =
      (if endsInLang name then assigned? rest else none).or (lang? name.getLast? rest) := by
  have unread {behind : List Char} (suffix : behind <:+ name) (other : behind ≠ langWord) :
      langAt? (behind ++ rest) = none := by
    rw [langAt?_name (fun c member => named c (suffix.mem member)) complete, if_neg other]
  -- What follows a name cannot complete the word, so `lang` stands at the end of the name or not at all.
  by_cases ends : ∃ front, name = front ++ langWord
  · obtain ⟨front, rfl⟩ := ends
    have before : ∀ behind, behind <:+ front → behind ≠ [] → langAt? (behind ++ (langWord ++ rest)) = none := by
      intro behind suffix some
      rw [← List.append_assoc]
      apply unread
      · exact List.suffix_append_self_iff.mpr suffix
      · simpa using some
    have last : (front ++ langWord).getLast? = some 'g' := by
      rw [List.getLast?_append]
      rfl
    have word : endsInLang (front ++ langWord) = front.getLast?.all fun c => !Unicode.isWord c := by
      rw [endsInLang, Text.dropTail?_eq_some.mpr rfl]
    rw [last, word, List.append_assoc, lang?_append_of_unread before, Option.or_none, lang?_langWord_append complete]
  · push Not at ends
    have word : endsInLang name = false := by
      have uncut : Text.dropTail? langWord name = none :=
        Option.eq_none_iff_forall_ne_some.mpr fun front cut => ends front (Text.dropTail?_eq_some.mp cut)
      rw [endsInLang, uncut]
    have skipped : ∀ behind, behind <:+ name → behind ≠ [] → langAt? (behind ++ rest) = none := by
      intro behind suffix _
      apply unread suffix
      rintro rfl
      obtain ⟨front, whole⟩ := suffix
      exact ends front whole.symm
    rw [lang?_append_of_unread skipped, word, Option.or_none]
    rfl

end Name

theorem lang?_quoted {value rest : List Char} (clean : '"' ∉ value) (follows : Follows rest)
    (previous : Option Char) :
    lang? previous (value ++ '"' :: rest) = (lang? previous value).or (lang? none rest) := by
  have next : ∀ c ∈ rest.head?, ¬isLetter c := by
    intro c first letter
    exact not_isBlank_of_isLetter letter (isBlank_of_isGap (follows.gap c first))
  induction value generalizing previous with
  | nil =>
    have closing : lang? previous (['"'] ++ rest) = lang? none rest :=
      lang?_append_of_unword (by simp) (by decide) (by decide) previous
    rw [List.nil_append, ← List.singleton_append, closing]
    rfl
  | cons c value ih =>
    have here : langAt? (c :: (value ++ '"' :: rest)) = langAt? (c :: value) := langAt?_quoted clean next
    rw [List.cons_append, lang?, lang?, here, ih fun member => clean (List.mem_cons_of_mem c member)]
    exact (Option.or_assoc ..).symm

namespace Attribute

def named? (a : Attribute) : Option (List Char) :=
  a.value?.bind fun value => (if endsInLang a.name then leading? value else none).or (lang? none value)

def language? (a : Attribute) : Option (List Char) :=
  if a.name = langWord then a.value?.bind leading? else none

theorem Proper.lang?_eq {a : Attribute} {rest : List Char} (proper : a.Proper) (follows : Follows rest) :
    lang? none (a.name ++ (assignment a.value? ++ rest)) = a.named?.or (lang? none rest) := by
  unfold named?
  cases quoted : a.value? with
  | none =>
    rw [lang?_name proper.name (follows.endsName none), assignment, List.nil_append,
      assigned?_eq_none follows.ends, ite_self, follows.lang?_eq]
    rfl
  | some value =>
    have clean : '"' ∉ value := proper.value value quoted
    have written : assignment (some value) ++ rest = ['=', '"'] ++ (value ++ '"' :: rest) := by simp [assignment]
    have assigned : assigned? (['=', '"'] ++ (value ++ '"' :: rest)) = leading? value :=
      leading?_append_cons (by decide) value rest
    have passed (previous : Option Char) : lang? previous (['=', '"'] ++ (value ++ '"' :: rest)) =
        (lang? none value).or (lang? none rest) := by
      rw [lang?_append_of_unword (by simp) (by decide) (by decide), lang?_quoted clean follows]
    rw [written, lang?_name proper.name (by simp [EndsName]), assigned, passed, Option.bind_some, Option.or_assoc]

end Attribute

variable {attributes : List Attribute} {last : List Char}

/-- The language of the tag is the first that an attribute is taken to name. -/
theorem lang?_tag (proper : ∀ a ∈ attributes, a.Proper) (blank : ∀ c ∈ last, isGap c) :
    lang? none (tag attributes last) = attributes.findSome? Attribute.named? := by
  induction attributes with
  | nil =>
    by_cases empty : last = []
    · rw [tag, empty]
      rfl
    · have passed := lang?_gap_append (s := []) empty blank none
      rwa [List.append_nil] at passed
  | cons a attributes ih =>
    have proper' : ∀ a ∈ attributes, a.Proper := fun a member => proper a (List.mem_cons_of_mem _ member)
    have first := proper a List.mem_cons_self
    rw [tag, lang?_gap_append first.apart first.gap, first.lang?_eq (follows_tag proper' blank), ih proper',
      List.findSome?_cons]
    cases a.named? <;> rfl

end DeclBundle.Component
