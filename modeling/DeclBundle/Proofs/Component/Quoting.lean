import DeclBundle.Proofs.Component.Layout
import DeclBundle.Proofs.Component.TagLanguage

namespace DeclBundle

namespace Component

section Tag

variable {attributes : List Attribute} {last : List Char}

theorem endsWord_tag (proper : ∀ a ∈ attributes, a.Proper) (blank : ∀ c ∈ last, isGap c) :
    endsWord (tag attributes last) := by
  have gap := (follows_tag proper blank).gap
  cases written : tag attributes last with
  | nil => rfl
  | cons c rest =>
    rw [written] at gap
    simpa [endsWord] using not_isWord_of_isGap (gap c rfl)

theorem inTag_iff (proper : ∀ a ∈ attributes, a.Proper) (blank : ∀ c ∈ last, isGap c) :
    '>' ∉ tag attributes last ↔ ∀ a ∈ attributes, ∀ value ∈ a.value?, '>' ∉ value := by
  have clean {gap : List Char} (blank : ∀ c ∈ gap, isGap c) : '>' ∉ gap :=
    fun member => absurd (blank '>' member) (by decide)
  induction attributes with
  | nil => simpa [tag] using clean blank
  | cons a attributes ih =>
    obtain ⟨-, gap, -, name, -⟩ := proper a List.mem_cons_self
    have unnamed : '>' ∉ a.name := fun member => absurd (name '>' member) (by decide)
    have inValue : '>' ∉ Attribute.assignment a.value? ↔ ∀ value ∈ a.value?, '>' ∉ value := by
      cases a.value? <;> simp [Attribute.assignment]
    simp only [tag, List.mem_append, clean gap, unnamed, false_or, not_or, inValue, List.forall_mem_cons,
      ih fun a member => proper a (List.mem_cons_of_mem _ member)]

section Ending

variable {s : List Char}

theorem ending_ne_nil : ending ≠ [] := by decide

theorem not_mem_ending_of_isGap {c : Char} (gap : isGap c) : c ∉ ending := by
  have unblank : ending.any Text.isBlank = false := by decide
  exact fun member => List.any_eq_false.mp unblank c member (isBlank_of_isGap gap)

theorem ending_infix_gap_append_iff {gap : List Char} (blank : ∀ c ∈ gap, isGap c) :
    ending <:+: gap ++ s ↔ ending <:+: s := by
  induction gap with
  | nil => rfl
  | cons c gap ih =>
    have clean : c ∉ ending := not_mem_ending_of_isGap (blank c List.mem_cons_self)
    rw [List.cons_append, Text.infix_cons_iff_of_not_mem ending_ne_nil clean,
      ih fun c member => blank c (List.mem_cons_of_mem _ member)]

theorem ending_infix_assignment_iff {name : List Char} (named : ∀ c ∈ name, isOfName c)
    (value? : Option (List Char)) (follows : Follows s) : ending <:+: name ++ (Attribute.assignment value? ++ s) ↔
      (∃ value ∈ value?, ending <:+: value) ∨ ending <:+: s := by
  have slash : '/' ∈ ending := by decide
  have unnamed : ¬ending <:+: name := fun found => absurd (named '/' (found.mem slash)) (by decide)
  cases value? with
  | none =>
    cases s with
    | nil => simp [Attribute.assignment, unnamed, ending_ne_nil]
    | cons c s =>
      have gap : ∀ d ∈ [c], isGap d := by simpa using follows.gap c rfl
      have clean : c ∉ ending := not_mem_ending_of_isGap (gap c List.mem_cons_self)
      have passed := ending_infix_gap_append_iff (s := s) gap
      rw [List.singleton_append] at passed
      simp [Attribute.assignment, Text.infix_append_cons_iff clean, unnamed, passed]
  | some value =>
    have sign : '=' ∉ ending := by decide
    have quote : '"' ∉ ending := by decide
    have opens := Text.infix_cons_iff_of_not_mem ending_ne_nil quote
    simp [Attribute.assignment, Text.infix_append_cons_iff sign, unnamed, opens, Text.infix_append_cons_iff quote]

theorem ending_infix_tag_iff (proper : ∀ a ∈ attributes, a.Proper) (blank : ∀ c ∈ last, isGap c) :
    ending <:+: tag attributes last ↔ ∃ a ∈ attributes, ∃ value ∈ a.value?, ending <:+: value := by
  induction attributes with
  | nil =>
    have passed := ending_infix_gap_append_iff (s := []) blank
    rw [List.append_nil, List.infix_nil, iff_false_intro ending_ne_nil] at passed
    simp [tag, passed]
  | cons a attributes ih =>
    have proper' : ∀ a ∈ attributes, a.Proper := fun a member => proper a (List.mem_cons_of_mem _ member)
    have first := proper a List.mem_cons_self
    rw [tag, ending_infix_gap_append_iff first.gap,
      ending_infix_assignment_iff first.name a.value? (follows_tag proper' blank), ih proper']
    simp

end Ending

end Tag

theorem IsTrimmed.count_eq {inner whole : List Char} (trimmed : IsTrimmed inner whole) {c : Char}
    (other : c ≠ '\n') : inner.count c = whole.count c := by
  obtain ⟨before, after, rfl, -⟩ := trimmed
  simp [List.count_replicate, other.symm]

end Component

open Component

structure Markup where
  attributes : List Attribute
  last : List Char
  body : List Char
  gap : List Char

namespace Markup

def element (m : Markup) : Element :=
  { attributes := tag m.attributes m.last, body := m.body, gap := m.gap }

def source (m : Markup) : String := String.ofList m.element.text

@[mk_iff]
structure Proper (m : Markup) : Prop where
  attributes : ∀ a ∈ m.attributes, a.Proper
  last : ∀ c ∈ m.last, isGap c
  unended : ¬ending <:+: m.body
  gap : ∀ c ∈ m.gap, Text.isBlank c

instance (m : Markup) : Decidable m.Proper :=
  decidable_of_iff ((∀ a ∈ m.attributes, a.Proper) ∧ m.last.all isGap ∧ ¬ending <:+: m.body ∧ m.gap.all Text.isBlank)
    (by rw [List.all_eq_true, List.all_eq_true, m.proper_iff])

structure Holds (m : Markup) (script : Script) : Prop where
  content : IsTrimmed script.content.toList m.body
  setup : script.setup ↔ ∃ a ∈ m.attributes, a.name = setupWord
  lang : script.lang = (m.attributes.findSome? Attribute.language?).map String.ofList

def Reads (m : Markup) : Prop := ∃ script, Script.ofSource? m.source = some script ∧ m.Holds script

/-- No value is mistaken for the end of the tag, for `setup` or for a language. -/
structure Undisturbed (m : Markup) : Prop where
  inTag : ∀ a ∈ m.attributes, ∀ value ∈ a.value?, '>' ∉ value
  setup : (∃ a ∈ m.attributes, a.name = setupWord) ∨ ∀ a ∈ m.attributes, ∀ value ∈ a.value?, ¬Mentions value
  lang : m.attributes.findSome? Attribute.named? = m.attributes.findSome? Attribute.language?

variable {m : Markup}

theorem ofSource?_source (m : Markup) : Script.ofSource? m.source = Script.ofBlocks? (blocks m.element.text) := by
  rw [Script.ofSource?, source, String.toList_ofList]

theorem ofSource?_of_text {e : Element} (proper : e.Proper) (same : e.text = m.element.text) :
    Script.ofSource? m.source = some
      ⟨String.ofList e.content, (lang? none e.attributes).map String.ofList, isSetup e.attributes⟩ := by
  rw [ofSource?_source, ← same, proper.blocks_text, Script.ofBlocks?_singleton]

theorem ofSource?_of_inTag (proper : m.Proper) (inTag : ∀ a ∈ m.attributes, ∀ value ∈ a.value?, '>' ∉ value) :
    Script.ofSource? m.source = some ⟨String.ofList m.element.content,
      (m.attributes.findSome? Attribute.named?).map String.ofList, isSetup m.element.attributes⟩ := by
  have whole : m.element.Proper :=
    { word := endsWord_tag proper.attributes proper.last
      inTag := (inTag_iff proper.attributes proper.last).mpr inTag
      unclosed := fun closes => proper.unended closes.ending
      blank := proper.gap }
  rw [ofSource?_of_text whole rfl]
  simp only [element, lang?_tag proper.attributes proper.last]

theorem not_reads_of_open (proper : m.Proper) (ended : ¬∀ a ∈ m.attributes, ∀ value ∈ a.value?, '>' ∉ value)
    (unended : ∀ a ∈ m.attributes, ∀ value ∈ a.value?, ¬ending <:+: value) : ¬m.Reads := by
  rw [← inTag_iff proper.attributes proper.last, not_not] at ended
  obtain ⟨front, more, written, inTag⟩ := List.eq_append_cons_of_mem ended
  let e : Element := { attributes := front, body := more ++ '>' :: m.body, gap := m.gap }
  have same : e.text = m.element.text := by simp [e, Element.text, element, written]
  have word : endsWord front := by
    rw [← endsWord_append_tag front more, ← written]
    exact endsWord_tag proper.attributes proper.last
  have unended' : ¬ending <:+: more ++ '>' :: m.body := by
    have mark : '>' ∉ ending := by decide
    rw [Text.infix_append_cons_iff mark]
    intro found
    rcases found with inMore | inBody
    · have behind : more <:+: tag m.attributes m.last := ⟨front ++ ['>'], [], by simp [written]⟩
      obtain ⟨a, member, value, quoted, found⟩ :=
        (ending_infix_tag_iff proper.attributes proper.last).mp (inMore.trans behind)
      exact unended a member value quoted found
    · exact proper.unended inBody
  have whole : e.Proper := ⟨word, inTag, fun closes => unended' closes.ending, proper.gap⟩
  intro reads
  obtain ⟨script, read, holds⟩ := reads
  obtain rfl := Option.some.inj ((ofSource?_of_text whole same).symm.trans read)
  have content := holds.content
  rw [String.toList_ofList] at content
  have counted := (isTrimmed_content e.toBlock).count_eq (c := '>') (by decide)
  rw [content.count_eq (by decide)] at counted
  simp [e] at counted
  omega

/-- An element is read as it is written if no value is mistaken for something else, and only then. Where a value ends
the tag and one ends the element as well, what is read has nothing to do with the body, but may be the same. -/
theorem reads_iff (proper : m.Proper) : (m.Undisturbed → m.Reads) ∧
    ((∀ a ∈ m.attributes, ∀ value ∈ a.value?, '>' ∉ value) ∨
      (∀ a ∈ m.attributes, ∀ value ∈ a.value?, ¬ending <:+: value) → m.Reads → m.Undisturbed) := by
  have setup := isSetup_tag_iff proper.attributes proper.last
  constructor
  · intro undisturbed
    refine ⟨_, ofSource?_of_inTag proper undisturbed.inTag, ?_, ?_, ?_⟩
    · rw [String.toList_ofList]
      exact isTrimmed_content m.element.toBlock
    · rw [element, setup]
      constructor
      · intro said
        obtain ⟨a, member, named | ⟨value, quoted, mentions⟩⟩ := said
        · exact ⟨a, member, named⟩
        · rcases undisturbed.setup with named | unmentioned
          · exact named
          · exact absurd mentions (unmentioned a member value quoted)
      · intro named
        obtain ⟨a, member, named⟩ := named
        exact ⟨a, member, .inl named⟩
    · rw [undisturbed.lang]
  · intro unended reads
    have inTag : ∀ a ∈ m.attributes, ∀ value ∈ a.value?, '>' ∉ value := by
      -- Had a value ended the tag, the body would be read from there on.
      by_contra ended
      exact not_reads_of_open proper ended (unended.resolve_left ended) reads
    obtain ⟨script, read, holds⟩ := reads
    obtain rfl := Option.some.inj ((ofSource?_of_inTag proper inTag).symm.trans read)
    refine ⟨inTag, ?_, ?_⟩
    · by_contra disturbed
      push Not at disturbed
      obtain ⟨unnamed, a, member, value, quoted, mentions⟩ := disturbed
      have said : isSetup m.element.attributes := setup.mpr ⟨a, member, .inr ⟨value, quoted, mentions⟩⟩
      obtain ⟨b, named, same⟩ := holds.setup.mp said
      exact unnamed b named same
    · exact Option.map_injective (fun _ _ => String.ofList_inj.mp) holds.lang

section Card

def card (name : String) (value? : Option String) : Markup where
  attributes := [⟨[' '], name.toList, value?.map String.toList⟩, ⟨[' '], langWord, some "ts".toList⟩]
  last := []
  body := "\nconst size = 1\n".toList
  gap := []

def setupCard : Markup := card "setup" none

def genericCard : Markup := card "generic" "T extends Array<string>"

theorem reads_iff_card : (setupCard.Proper ∧ setupCard.Undisturbed ∧ setupCard.Reads) ∧ genericCard.Proper ∧
    (∀ a ∈ genericCard.attributes, ∀ value ∈ a.value?, ¬ending <:+: value) ∧ ¬genericCard.Reads := by
  have proper : setupCard.Proper := by decide +kernel
  have undisturbed : setupCard.Undisturbed := ⟨by decide +kernel, .inl (by decide +kernel), by decide +kernel⟩
  have proper' : genericCard.Proper := by decide +kernel
  have unended : ∀ a ∈ genericCard.attributes, ∀ value ∈ a.value?, ¬ending <:+: value := by decide +kernel
  have ended : ¬∀ a ∈ genericCard.attributes, ∀ value ∈ a.value?, '>' ∉ value := by decide +kernel
  refine ⟨⟨proper, undisturbed, (reads_iff proper).1 undisturbed⟩, proper', unended, ?_⟩
  intro reads
  exact ended ((reads_iff proper').2 (.inr unended) reads).inTag

def titledCard : Markup := card "title" "the setup of a card"

def translatedCard : Markup := card "data-lang" "en"

theorem disturbed_by_values :
    (genericCard.Proper ∧ genericCard.source =
        "<script generic=\"T extends Array<string>\" lang=\"ts\">\nconst size = 1\n</script>" ∧
      Script.ofSource? genericCard.source = some ⟨"\" lang=\"ts\">\nconst size = 1", none, false⟩ ∧
      ¬genericCard.Reads) ∧
    (titledCard.Proper ∧ Script.ofSource? titledCard.source = some ⟨"const size = 1", "ts", true⟩ ∧
      ¬titledCard.Reads) ∧
    (translatedCard.Proper ∧ Script.ofSource? translatedCard.source = some ⟨"const size = 1", "en", false⟩ ∧
      ¬translatedCard.Reads) := by
  have proper : genericCard.Proper := by decide +kernel
  have goesOn : Script.ofSource? genericCard.source = some ⟨"\" lang=\"ts\">\nconst size = 1", none, false⟩ := by
    rw [ofSource?_source]
    decide +kernel
  have saysSetup : Script.ofSource? titledCard.source = some ⟨"const size = 1", "ts", true⟩ := by
    rw [ofSource?_source]
    decide +kernel
  have saysLang : Script.ofSource? translatedCard.source = some ⟨"const size = 1", "en", false⟩ := by
    rw [ofSource?_source]
    decide +kernel
  refine ⟨⟨proper, by decide +kernel, goesOn, ?_⟩, ⟨by decide +kernel, saysSetup, ?_⟩,
    ⟨by decide +kernel, saysLang, ?_⟩⟩
  · exact not_reads_of_open proper (by decide +kernel) (by decide +kernel)
  · intro reads
    obtain ⟨script, read, holds⟩ := reads
    obtain rfl := Option.some.inj (read.symm.trans saysSetup)
    have unnamed : ¬∃ a ∈ titledCard.attributes, a.name = setupWord := by decide +kernel
    exact unnamed (holds.setup.mp rfl)
  · intro reads
    obtain ⟨script, read, holds⟩ := reads
    obtain rfl := Option.some.inj (read.symm.trans saysLang)
    have named : (translatedCard.attributes.findSome? Attribute.language?).map String.ofList = some "ts" := by
      decide +kernel
    exact absurd (holds.lang.trans named) (by decide)

end Card

end Markup

end DeclBundle
