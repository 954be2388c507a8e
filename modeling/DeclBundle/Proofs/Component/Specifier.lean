import DeclBundle.Component.Declaration
import DeclBundle.Proofs.Text.Search

namespace DeclBundle.Component

def mark : List Char := ".vue".toList

theorem not_isQuote_of_mem_mark {c : Char} (member : c ∈ mark) : ¬isQuote c := by
  have clean : mark.any isQuote = false := by decide +kernel
  exact List.any_eq_false.mp clean c member

section Reading

variable {quote : Char} {s stem rest : List Char}

def inside (quote c : Char) : Bool := c != quote && c != '\n'

theorem all_inside_iff : (∀ c ∈ s, inside quote c) ↔ quote ∉ s ∧ '\n' ∉ s := by
  simp only [inside, Bool.and_eq_true, bne_iff_ne]
  constructor
  · exact fun within => ⟨fun member => (within _ member).1 rfl, fun member => (within _ member).2 rfl⟩
  · exact fun clean c member => ⟨fun same => clean.1 (same ▸ member), fun same => clean.2 (same ▸ member)⟩

theorem cut_iff {front : List Char} : s.takeWhile (inside quote) = front ∧
    s.dropWhile (inside quote) = quote :: rest ↔ s = front ++ quote :: rest ∧ ∀ c ∈ front, inside quote c := by
  have outside : ¬inside quote quote := by simp [inside]
  rw [Text.cut_iff, and_iff_left outside]

theorem specifier?_eq_some_iff : specifier? quote s = some (stem, rest) ↔
    s = stem ++ mark ++ quote :: rest ∧ stem ≠ [] ∧ quote ∉ stem ++ mark ∧ '\n' ∉ stem ++ mark := by
  have folded : (fun c => c != quote && c != '\n') = inside quote := rfl
  have marked : ".vue".toList = mark := rfl
  have read : specifier? quote s = some (stem, rest) ↔ (s.takeWhile (inside quote) = stem ++ mark ∧
      s.dropWhile (inside quote) = quote :: rest) ∧ stem ≠ [] := by
    simp only [specifier?, folded, marked]
    rw [← Text.dropTail?_eq_some]
    cases s.dropWhile (inside quote) with
    | nil => simp
    | cons c tail =>
      by_cases closes : c = quote
      · cases Text.dropTail? mark (s.takeWhile (inside quote)) with
        | none => simp [closes]
        | some front =>
          simp only [closes, bne_self_eq_false, Bool.false_eq_true, if_false, List.isEmpty_iff]
          grind
      · simp [closes]
  rw [read, cut_iff, all_inside_iff]
  tauto

theorem cleanSpecifiers_of_some (quoting : isQuote quote) (read : specifier? quote s = some (stem, rest)) :
    cleanSpecifiers (quote :: s) = quote :: stem ++ quote :: cleanSpecifiers rest := by
  rw [cleanSpecifiers, if_pos quoting]
  split
  · rename_i stem' rest' same
    obtain ⟨rfl, rfl⟩ := Prod.mk.inj (Option.some.inj (read.symm.trans same))
    rfl
  · rename_i none
    cases none.symm.trans read

theorem cleanSpecifiers_of_none (none : specifier? quote s = none) :
    cleanSpecifiers (quote :: s) = quote :: cleanSpecifiers s := by
  rw [cleanSpecifiers]
  split
  · split
    · rename_i same
      cases none.symm.trans same
    · rfl
  · rfl

theorem cleanSpecifiers_of_not_isQuote {c : Char} (plain : ¬isQuote c) (s : List Char) :
    cleanSpecifiers (c :: s) = c :: cleanSpecifiers s := by
  rw [cleanSpecifiers, if_neg plain]

theorem cleanSpecifiers_append_of_plain {front : List Char} (plain : ∀ c ∈ front, ¬isQuote c)
    (s : List Char) : cleanSpecifiers (front ++ s) = front ++ cleanSpecifiers s := by
  induction front with
  | nil => rfl
  | cons c front ih =>
    rw [List.cons_append, cleanSpecifiers_of_not_isQuote (plain c List.mem_cons_self),
      ih fun d member => plain d (List.mem_cons_of_mem c member), List.cons_append]

end Reading

structure Quoted where
  quote : Char
  content : List Char

namespace Quoted

structure Proper (q : Quoted) : Prop where
  quoting : isQuote q.quote
  plain : ∀ c ∈ q.content, ¬isQuote c
  oneLine : '\n' ∉ q.content

def cleaned (q : Quoted) : Quoted :=
  if mark <:+ q.content ∧ q.content ≠ mark then
    { q with content := q.content.take (q.content.length - mark.length) }
  else q

theorem cleaned_append_mark (quote : Char) {stem : List Char} (some : stem ≠ []) :
    cleaned ⟨quote, stem ++ mark⟩ = ⟨quote, stem⟩ := by
  have marked : mark <:+ stem ++ mark ∧ stem ++ mark ≠ mark := by
    exact ⟨List.suffix_append .., by simpa using some⟩
  simp [cleaned, marked]

theorem cleaned_of_unmarked {q : Quoted} (unmarked : ∀ stem, stem ≠ [] → q.content ≠ stem ++ mark) :
    q.cleaned = q := by
  apply if_neg
  intro marked
  obtain ⟨⟨stem, whole⟩, more⟩ := marked
  apply unmarked stem _ whole.symm
  rintro rfl
  exact more whole.symm

end Quoted

section Alternation

def render : List Char → List (Quoted × List Char) → List Char
  | plain, [] => plain
  | plain, (q, after) :: strings => plain ++ q.quote :: (q.content ++ q.quote :: render after strings)

/-- Plain text has no quotes, and no mark before a string. -/
inductive Alternates : List Char → List (Quoted × List Char) → Prop
  | last {plain : List Char} (unquoted : ∀ c ∈ plain, ¬isQuote c) : Alternates plain []
  | next {plain : List Char} (unquoted : ∀ c ∈ plain, ¬isQuote c) (unmarked : ¬mark <:+ plain) {q : Quoted}
    (proper : q.Proper) {after : List Char} {strings : List (Quoted × List Char)}
    (rest : Alternates after strings) : Alternates plain ((q, after) :: strings)

theorem cut_behind {part back front tail : List Char} {c d : Char} (clean : d ∉ part)
    (same : part ++ c :: back = front ++ d :: tail) :
    front = part ∧ c = d ∨ ∃ more, front = part ++ c :: more ∧ back = more ++ d :: tail := by
  rcases List.append_eq_append_iff.mp same with ⟨more, parts, rest⟩ | ⟨more, parts, rest⟩
  · cases more with
    | nil => exact .inl ⟨by simpa using parts, (List.cons.inj rest).1⟩
    | cons e more =>
      obtain ⟨rfl, behind⟩ := List.cons.inj rest
      exact .inr ⟨more, parts, behind⟩
  · cases more with
    | nil => exact .inl ⟨by simpa using parts.symm, (List.cons.inj rest).1.symm⟩
    | cons e more => exact absurd (by simp [parts, (List.cons.inj rest).1]) clean

variable {plain : List Char} {strings : List (Quoted × List Char)} {quote : Char}

theorem not_mem_of_unquoted (unquoted : ∀ c ∈ plain, ¬isQuote c) (quoting : isQuote quote) : quote ∉ plain :=
  fun member => unquoted quote member quoting

/-- Whatever quote comes next of its kind, no mark stands before it: the text in front of it ends in plain text,
or in a quote of the other kind. -/
theorem Alternates.unmarked_front (alternates : Alternates plain strings) (quoting : isQuote quote)
    {front tail : List Char} (cut : render plain strings = front ++ quote :: tail) (new : quote ∉ front) :
    ¬mark <:+ front := by
  have clean {c : Char} (quoting : isQuote c) : c ∉ mark := fun member => not_isQuote_of_mem_mark member quoting
  induction alternates generalizing front with
  | @last plain unquoted =>
    have inside : quote ∈ plain := by
      have whole : plain = front ++ quote :: tail := cut
      simp [whole]
    exact absurd quoting (unquoted quote inside)
  | @next plain unquoted unmarked q proper after strings rest ih =>
    rcases cut_behind (not_mem_of_unquoted unquoted quoting) cut with ⟨rfl, -⟩ | ⟨more, rfl, behind⟩
    · exact unmarked
    · rcases cut_behind (not_mem_of_unquoted proper.plain quoting) behind with ⟨-, same⟩ | ⟨last, rfl, later⟩
      · exact absurd (by simp [same]) new
      · rw [Text.suffix_append_cons_iff (clean proper.quoting), Text.suffix_append_cons_iff (clean proper.quoting)]
        apply ih later
        exact fun member => new (by simp [member])

theorem Alternates.specifier?_eq_none (alternates : Alternates plain strings) (quoting : isQuote quote) :
    specifier? quote (render plain strings) = none := by
  rw [Option.eq_none_iff_forall_ne_some]
  rintro ⟨stem, rest⟩ read
  obtain ⟨cut, -, new, -⟩ := specifier?_eq_some_iff.mp read
  exact alternates.unmarked_front quoting cut new (List.suffix_append ..)

theorem cleanSpecifiers_render (alternates : Alternates plain strings) :
    cleanSpecifiers (render plain strings) =
      render plain (strings.map fun (q, after) => (q.cleaned, after)) := by
  induction alternates with
  | @last plain unquoted =>
    have kept := cleanSpecifiers_append_of_plain unquoted []
    rwa [List.append_nil, cleanSpecifiers, List.append_nil] at kept
  | @next plain unquoted unmarked q proper after strings rest ih =>
    obtain ⟨quote, content⟩ := q
    rw [List.map_cons, render, render, cleanSpecifiers_append_of_plain unquoted, ← ih]
    -- A string is a specifier with a mark, or is passed over to its closing quote, which opens nothing.
    by_cases marked : ∃ stem, stem ≠ [] ∧ content = stem ++ mark
    · obtain ⟨stem, some, rfl⟩ := marked
      have unquoted' : quote ∉ stem ++ mark := not_mem_of_unquoted proper.plain proper.quoting
      have read : specifier? quote (stem ++ mark ++ quote :: render after strings) =
          .some (stem, render after strings) :=
        specifier?_eq_some_iff.mpr ⟨rfl, some, unquoted', proper.oneLine⟩
      rw [cleanSpecifiers_of_some proper.quoting read, Quoted.cleaned_append_mark quote some, List.cons_append]
    · have kept : Quoted.cleaned ⟨quote, content⟩ = ⟨quote, content⟩ :=
        Quoted.cleaned_of_unmarked fun stem some same => marked ⟨stem, some, same⟩
      have unread : specifier? quote (content ++ quote :: render after strings) = none := by
        rw [Option.eq_none_iff_forall_ne_some]
        rintro ⟨stem, tail⟩ read
        obtain ⟨cut, some, new, -⟩ := specifier?_eq_some_iff.mp read
        rcases cut_behind (not_mem_of_unquoted proper.plain proper.quoting) cut with ⟨same, -⟩ | ⟨more, same, -⟩
        · exact marked ⟨stem, some, same.symm⟩
        · exact absurd (by simp [same]) new
      rw [cleanSpecifiers_of_none unread, cleanSpecifiers_append_of_plain proper.plain,
        cleanSpecifiers_of_none (rest.specifier?_eq_none proper.quoting), kept]

/-- Where strings in quotes and plain text take turns, the strings with a mark lose it, and all else is kept. -/
theorem cleanImports_render (alternates : Alternates plain strings) :
    cleanImports (String.ofList (render plain strings)) =
      String.ofList (render plain (strings.map fun (q, after) => (q.cleaned, after))) := by
  unfold cleanImports
  rw [String.toList_ofList, cleanSpecifiers_render alternates]

def cardStrings : List (Quoted × List Char) :=
  [(⟨'\'', "./Card.vue".toList⟩, "\nexport { size } from ".toList), (⟨'"', "./size.ts".toList⟩, [' ']),
    (⟨'\'', ".vue".toList⟩, ".vue;".toList)]

theorem alternates_cardStrings : Alternates "import Card from ".toList cardStrings := by
  have unquoted {s : List Char} (none : s.any isQuote = false) : ∀ c ∈ s, ¬isQuote c :=
    List.any_eq_false.mp none
  have proper (q : Quoted) (quoting : isQuote q.quote) (none : q.content.any isQuote = false)
      (oneLine : '\n' ∉ q.content) : q.Proper := ⟨quoting, unquoted none, oneLine⟩
  refine .next (unquoted (by decide +kernel)) (by decide +kernel) (proper _ (by decide) ?_ ?_) ?_
  · decide +kernel
  · decide +kernel
  refine .next (unquoted (by decide +kernel)) (by decide +kernel) (proper _ (by decide) ?_ ?_) ?_
  · decide +kernel
  · decide +kernel
  refine .next (unquoted (by decide +kernel)) (by decide +kernel) (proper _ (by decide) ?_ ?_) ?_
  · decide +kernel
  · decide +kernel
  exact .last (unquoted (by decide +kernel))

theorem cleanImports_render_card : Alternates "import Card from ".toList cardStrings ∧
    cleanImports "import Card from './Card.vue'\nexport { size } from \"./size.ts\" '.vue'.vue;" =
      "import Card from './Card'\nexport { size } from \"./size.ts\" '.vue'.vue;" := by
  constructor
  · exact alternates_cardStrings
  · have text : String.ofList (render "import Card from ".toList cardStrings) =
        "import Card from './Card.vue'\nexport { size } from \"./size.ts\" '.vue'.vue;" := by
      decide +kernel
    rw [← text, cleanImports_render alternates_cardStrings]
    decide +kernel

end Alternation

end DeclBundle.Component
