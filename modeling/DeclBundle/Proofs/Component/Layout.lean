import DeclBundle.Proofs.Component.Attributes
import DeclBundle.Proofs.Component.Blocks

namespace DeclBundle

namespace Component

def IsTrimmed (inner whole : List Char) : Prop :=
  ∃ before after, whole = List.replicate before '\n' ++ (inner ++ List.replicate after '\n') ∧
    inner.head? ≠ some '\n' ∧ inner.getLast? ≠ some '\n'

theorem exists_replicate_dropWhile (s : List Char) :
    ∃ count, s = List.replicate count '\n' ++ s.dropWhile (· = '\n') ∧
      (s.dropWhile (· = '\n')).head? ≠ some '\n' := by
  refine ⟨(s.takeWhile (· = '\n')).length, ?_, ?_⟩
  · have feeds : s.takeWhile (· = '\n') = List.replicate (s.takeWhile (· = '\n')).length '\n' :=
      List.eq_replicate_of_mem fun c member => by simpa using List.mem_takeWhile_imp member
    rw [← feeds, List.takeWhile_append_dropWhile]
  · intro feed
    have stops := List.head?_dropWhile_not (fun c : Char => decide (c = '\n')) s
    rw [feed] at stops
    simp at stops

theorem isTrimmed_content (b : Block) : IsTrimmed b.content b.body := by
  obtain ⟨before, whole, starts⟩ := exists_replicate_dropWhile b.body
  obtain ⟨after, reversed, ends⟩ := exists_replicate_dropWhile (b.body.dropWhile (· = '\n')).reverse
  have inner : b.body.dropWhile (· = '\n') = b.content ++ List.replicate after '\n' := by
    have turned := congrArg List.reverse reversed
    rw [List.reverse_reverse, List.reverse_append, List.reverse_replicate] at turned
    exact turned
  refine ⟨before, after, by rw [← inner, ← whole], ?_, ?_⟩
  · intro feed
    rw [inner] at starts
    cases content : b.content with
    | nil => simp [content] at feed
    | cons c rest =>
      rw [content] at feed starts
      exact starts feed
  · intro feed
    apply ends
    rw [← feed, Block.content, List.getLast?_reverse]

end Component

section First

variable {α : Type}

def IsFirst (P : α → Prop) (items : List α) (a : α) : Prop :=
  ∃ earlier later, items = earlier ++ a :: later ∧ P a ∧ ∀ b ∈ earlier, ¬P b

theorem isFirst_of_find? {P : α → Prop} [DecidablePred P] {items : List α} {a : α}
    (found : items.find? (fun a => P a) = some a) : IsFirst P items a := by
  obtain ⟨holds, earlier, later, whole, before⟩ := List.find?_eq_some_iff_append.mp found
  exact ⟨earlier, later, whole, by simpa using holds, by simpa using before⟩

theorem IsFirst.holds {P : α → Prop} {items : List α} {a : α} (first : IsFirst P items a) : P a := by
  obtain ⟨-, -, -, holds, -⟩ := first
  exact holds

end First

namespace Script

open Component

/-- What some blocks hold together: the first without `setup`, and the first with it. -/
inductive Joins (blocks : List Block) : List Char → Prop
  | plain {b : Block} (first : IsFirst (fun b => ¬HasSetup b.attributes) blocks b)
    (none : ∀ b ∈ blocks, ¬HasSetup b.attributes) {text : List Char} (trimmed : IsTrimmed text b.body) :
    Joins blocks text
  | setup {b : Block} (first : IsFirst (fun b => HasSetup b.attributes) blocks b)
    (all : ∀ b ∈ blocks, HasSetup b.attributes) {text : List Char} (trimmed : IsTrimmed text b.body) :
    Joins blocks text
  | both {b b' : Block} (first : IsFirst (fun b => ¬HasSetup b.attributes) blocks b)
    (first' : IsFirst (fun b => HasSetup b.attributes) blocks b') {text text' : List Char}
    (trimmed : IsTrimmed text b.body) (trimmed' : IsTrimmed text' b'.body) : Joins blocks (text ++ '\n' :: text')

structure Describes (script : Script) (blocks : List Block) : Prop where
  setup : script.setup ↔ ∃ b ∈ blocks, HasSetup b.attributes
  lang : ∀ name : String, script.lang = some name ↔
    ∃ b, IsFirst (fun b => ∃ name, Names b.attributes name) blocks b ∧ Names b.attributes name.toList
  content : Joins blocks script.content.toList

theorem ofBlocks?_eq (blocks : List Block) : ofBlocks? blocks =
    let lang := (blocks.findSome? fun b => lang? none b.attributes).map String.ofList
    match blocks.find? (fun b => ¬HasSetup b.attributes), blocks.find? (fun b => HasSetup b.attributes) with
    | none, none => none
    | some plain, none => some ⟨String.ofList plain.content, lang, false⟩
    | none, some setup => some ⟨String.ofList setup.content, lang, true⟩
    | some plain, some setup =>
      some ⟨String.ofList (plain.content ++ '\n' :: setup.content), lang, true⟩ := by
  unfold ofBlocks?
  simp only [isSetup_eq_decide, decide_not]
  cases blocks.find? (fun b => !decide (HasSetup b.attributes)) <;>
    cases blocks.find? (fun b => decide (HasSetup b.attributes)) <;> rfl

theorem ofBlocks?_singleton (b : Block) : ofBlocks? [b] =
    some ⟨String.ofList b.content, (lang? none b.attributes).map String.ofList, isSetup b.attributes⟩ := by
  have lang : [b].findSome? (fun b => lang? none b.attributes) = lang? none b.attributes := by
    rw [List.findSome?_cons]
    cases lang? none b.attributes <;> rfl
  cases setup : isSetup b.attributes <;> simp [ofBlocks?, List.find?, setup, lang]

theorem ofBlocks?_eq_none_iff {blocks : List Block} : ofBlocks? blocks = none ↔ blocks = [] := by
  rw [ofBlocks?_eq]
  constructor
  · intro nothing
    dsimp only at nothing
    split at nothing
    · rename_i noPlain noSetup
      rw [List.eq_nil_iff_forall_not_mem]
      intro b member
      have has := List.find?_eq_none.mp noPlain b member
      have hasNot := List.find?_eq_none.mp noSetup b member
      simp_all
    all_goals cases nothing
  · rintro rfl
    rfl

theorem lang_iff (blocks : List Block) (name : String) :
    (blocks.findSome? fun b => lang? none b.attributes).map String.ofList = some name ↔
      ∃ b, IsFirst (fun b => ∃ name, Names b.attributes name) blocks b ∧ Names b.attributes name.toList := by
  have unnamed (b : Block) : lang? none b.attributes = none ↔ ¬∃ name, Names b.attributes name := by
    simp only [Option.eq_none_iff_forall_ne_some, ne_eq, lang?_eq_some_iff, not_exists]
  rw [Option.map_eq_some_iff]
  simp only [List.findSome?_eq_some_iff, unnamed, lang?_eq_some_iff]
  constructor
  · intro named
    obtain ⟨text, ⟨earlier, b, later, whole, names, before⟩, rfl⟩ := named
    rw [String.toList_ofList]
    exact ⟨b, ⟨earlier, later, whole, ⟨text, names⟩, before⟩, names⟩
  · intro named
    obtain ⟨b, ⟨earlier, later, whole, -, before⟩, names⟩ := named
    exact ⟨name.toList, ⟨earlier, b, later, whole, names, before⟩, String.ofList_toList⟩

theorem describes_of_ofBlocks? {blocks : List Block} {script : Script}
    (made : ofBlocks? blocks = some script) : script.Describes blocks := by
  rw [ofBlocks?_eq] at made
  dsimp only at made
  split at made
  · cases made
  · rename_i b plain noSetup
    have none : ∀ b ∈ blocks, ¬HasSetup b.attributes := by simpa using noSetup
    obtain rfl := Option.some.inj made
    refine ⟨by simpa using none, lang_iff blocks, ?_⟩
    rw [String.toList_ofList]
    exact .plain (isFirst_of_find? plain) none (isTrimmed_content b)
  · rename_i b noPlain setup
    have all : ∀ b ∈ blocks, HasSetup b.attributes := by simpa using noPlain
    have first := isFirst_of_find? setup
    obtain rfl := Option.some.inj made
    refine ⟨?_, lang_iff blocks, ?_⟩
    · exact iff_of_true rfl ⟨b, List.mem_of_find?_eq_some setup, first.holds⟩
    · rw [String.toList_ofList]
      exact .setup first all (isTrimmed_content b)
  · rename_i b b' plain setup
    have first := isFirst_of_find? setup
    obtain rfl := Option.some.inj made
    refine ⟨?_, lang_iff blocks, ?_⟩
    · exact iff_of_true rfl ⟨b', List.mem_of_find?_eq_some setup, first.holds⟩
    · rw [String.toList_ofList]
      exact .both (isFirst_of_find? plain) first (isTrimmed_content b) (isTrimmed_content b')

/-- A component has a script if it has an element, and then its script is what the blocks of all elements make
up, whatever stands between them. -/
theorem describes_layout {plain : List Char} {parts : List (Element × List Char)}
    (unopened : ¬opening <:+: plain) (proper : ∀ part ∈ parts, part.1.Proper ∧ ¬opening <:+: part.2) :
    (ofSource? (String.ofList (layout plain parts)) = none ↔ parts = []) ∧
      ∀ script, ofSource? (String.ofList (layout plain parts)) = some script →
        script.Describes (parts.map fun part => part.1.toBlock) := by
  have blocks := blocks_layout unopened proper
  unfold ofSource?
  rw [String.toList_ofList, blocks]
  constructor
  · rw [ofBlocks?_eq_none_iff, List.map_eq_nil_iff]
  · exact fun script made => describes_of_ofBlocks? made

def cardParts : List (Element × List Char) :=
  [({ attributes := " lang=\"ts\"".toList, body := "\nconst tag = '<script>'\n".toList, gap := [] }, ['\n']),
    ({ attributes := " setup".toList, body := "\nconst size = 1\n".toList, gap := [' '] },
      "\n<style></style>\n".toList)]

theorem describes_layout_card :
    ¬opening <:+: "<template></template>\n".toList ∧ (∀ part ∈ cardParts, part.1.Proper ∧ ¬opening <:+: part.2) ∧
      ∃ script, ofSource? (String.ofList (layout "<template></template>\n".toList cardParts)) = some script ∧
        script.content = "const tag = '<script>'\nconst size = 1" ∧
        script.Describes (cardParts.map fun part => part.1.toBlock) := by
  have unopened : ¬opening <:+: "<template></template>\n".toList := by decide +kernel
  have element (e : Element) (word : endsWord e.attributes) (inTag : '>' ∉ e.attributes)
      (unclosed : ¬ending <:+: e.body) (blank : ∀ c ∈ e.gap, Text.isBlank c) : e.Proper :=
    ⟨word, inTag, fun closes => unclosed closes.ending, blank⟩
  have proper : ∀ part ∈ cardParts, part.1.Proper ∧ ¬opening <:+: part.2 := by
    intro part member
    rcases List.mem_pair.mp member with rfl | rfl
    · exact ⟨element _ (by decide +kernel) (by decide +kernel) (by decide +kernel) (by simp), by decide +kernel⟩
    · have blank : [' '].all Text.isBlank := by decide
      exact ⟨element _ (by decide +kernel) (by decide +kernel) (by decide +kernel) (List.all_eq_true.mp blank),
        by decide +kernel⟩
  obtain ⟨-, describes⟩ := describes_layout unopened proper
  have made : ofSource? (String.ofList (layout "<template></template>\n".toList cardParts)) =
      some ⟨"const tag = '<script>'\nconst size = 1", "ts", true⟩ := by
    rw [ofSource?, String.toList_ofList]
    decide +kernel
  exact ⟨unopened, proper, _, made, rfl, describes _ made⟩

end Script

end DeclBundle
