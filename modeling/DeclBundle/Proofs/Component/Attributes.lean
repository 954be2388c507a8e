import DeclBundle.Component.Script
import DeclBundle.Proofs.Text.Search

namespace DeclBundle.Component

section Setup

def setupWord : List Char := ['s', 'e', 't', 'u', 'p']

/-- `setup` stands between blanks or the ends of the text; an equals sign may follow it as well. -/
def HasSetup (attributes : List Char) : Prop :=
  ∃ front back, attributes = front ++ (setupWord ++ back) ∧ (∀ c ∈ front.getLast?, Text.isBlank c) ∧
    ∀ c ∈ back.head?, c = '=' ∨ Text.isBlank c

theorem setupAt_iff {s : List Char} : setupAt s ↔
    ∃ back, s = setupWord ++ back ∧ ∀ c ∈ back.head?, c = '=' ∨ Text.isBlank c := by
  have word : "setup".toList = setupWord := rfl
  unfold setupAt
  rw [word]
  cases found : Text.dropHead? setupWord s with
  | none =>
    have other (back : List Char) : s ≠ setupWord ++ back := by
      intro same
      cases found.symm.trans (Text.dropHead?_eq_some.mpr same)
    simp [other]
  | some back =>
    rw [Text.dropHead?_eq_some.mp found]
    cases back <;> simp

theorem setupAfterBlank_iff {s : List Char} : setupAfterBlank s ↔
    ∃ front b rest, s = front ++ b :: rest ∧ Text.isBlank b ∧ setupAt rest := by
  induction s with
  | nil => simp [setupAfterBlank]
  | cons c s ih =>
    simp only [setupAfterBlank, Bool.or_eq_true, Bool.and_eq_true, ih]
    constructor
    · intro found
      rcases found with ⟨blank, here⟩ | ⟨front, b, rest, rfl, blank, there⟩
      · exact ⟨[], c, s, rfl, blank, here⟩
      · exact ⟨c :: front, b, rest, rfl, blank, there⟩
    · intro found
      obtain ⟨front, b, rest, whole, blank, there⟩ := found
      cases front with
      | nil =>
        obtain ⟨rfl, rfl⟩ := List.cons.inj whole
        exact .inl ⟨blank, there⟩
      | cons d front => exact .inr ⟨front, b, rest, (List.cons.inj whole).2, blank, there⟩

theorem isSetup_iff {attributes : List Char} : isSetup attributes ↔ HasSetup attributes := by
  simp only [isSetup, Bool.or_eq_true, setupAt_iff, setupAfterBlank_iff]
  constructor
  · intro found
    rcases found with ⟨back, rfl, ends⟩ | ⟨front, b, _, rfl, blank, back, rfl, ends⟩
    · exact ⟨[], back, rfl, by simp, ends⟩
    · exact ⟨front ++ [b], back, by simp, by simpa using blank, ends⟩
  · intro found
    obtain ⟨front, back, rfl, blank, ends⟩ := found
    rcases List.eq_nil_or_concat front with rfl | ⟨front, b, rfl⟩
    · exact .inl ⟨back, rfl, ends⟩
    · exact .inr ⟨front, b, _, by simp, blank b (by simp), back, rfl, ends⟩

instance : DecidablePred HasSetup := fun _ => decidable_of_iff _ isSetup_iff

theorem isSetup_eq_decide (attributes : List Char) : isSetup attributes = decide (HasSetup attributes) := by
  rw [Bool.eq_iff_iff, isSetup_iff, decide_eq_true_iff]

end Setup

section Lang

def langWord : List Char := ['l', 'a', 'n', 'g']

def Assigns (s name : List Char) : Prop :=
  ∃ gap gap' quote back, s = langWord ++ gap ++ '=' :: (gap' ++ (quote ++ (name ++ back))) ∧
    (∀ c ∈ gap, Text.isBlank c) ∧ (∀ c ∈ gap', Text.isBlank c) ∧ (quote = [] ∨ quote = ['"'] ∨ quote = ['\'']) ∧
    name ≠ [] ∧ (∀ c ∈ name, isLetter c) ∧ ∀ c ∈ back.head?, ¬isLetter c

theorem not_isBlank_of_isLetter {c : Char} (letter : isLetter c) : ¬Text.isBlank c := by
  have code : 65 ≤ c.toNat ∧ c.toNat ≤ 90 ∨ 97 ≤ c.toNat ∧ c.toNat ≤ 122 := by
    rcases Bool.or_eq_true_iff.mp letter with upper | lower
    · exact .inl (of_decide_eq_true upper)
    · obtain ⟨least, most⟩ := Bool.and_eq_true_iff.mp lower
      exact .inr ⟨of_decide_eq_true least, of_decide_eq_true most⟩
  simp only [Text.isBlank, Bool.or_eq_true, Bool.and_eq_true, decide_eq_true_eq, beq_iff_eq]
  omega

def unquote : List Char → List Char
  | '"' :: s => s
  | '\'' :: s => s
  | s => s

theorem exists_quote (s : List Char) :
    ∃ quote, s = quote ++ unquote s ∧ (quote = [] ∨ quote = ['"'] ∨ quote = ['\'']) := by
  unfold unquote
  split
  · exact ⟨['"'], rfl, by simp⟩
  · exact ⟨['\''], rfl, by simp⟩
  · exact ⟨[], rfl, by simp⟩

theorem unquote_append {quote s : List Char} (quoted : quote = [] ∨ quote = ['"'] ∨ quote = ['\''])
    (letter : ∃ c rest, s = c :: rest ∧ isLetter c) : unquote (quote ++ s) = s := by
  obtain ⟨c, rest, rfl, letter⟩ := letter
  rcases quoted with rfl | rfl | rfl
  · have double : c ≠ '"' := by
      rintro rfl
      exact absurd letter (by decide)
    have single : c ≠ '\'' := by
      rintro rfl
      exact absurd letter (by decide)
    simp [unquote, double, single]
  · rfl
  · rfl

def leading? (s : List Char) : Option (List Char) :=
  let name := s.takeWhile isLetter
  if name.isEmpty then none else some name

def assigned? (s : List Char) : Option (List Char) :=
  match s.dropWhile Text.isBlank with
  | '=' :: s => leading? (unquote (s.dropWhile Text.isBlank))
  | _ => none

theorem langAt?_eq (s : List Char) : langAt? s = (Text.dropHead? langWord s).bind assigned? := by
  have word : "lang".toList = langWord := rfl
  unfold langAt?
  rw [word]
  cases Text.dropHead? langWord s <;> rfl

theorem leading?_eq_some_iff {s name : List Char} : leading? s = some name ↔
    ∃ back, s = name ++ back ∧ name ≠ [] ∧ (∀ c ∈ name, isLetter c) ∧ ∀ c ∈ back.head?, ¬isLetter c := by
  simp only [leading?, List.isEmpty_iff]
  constructor
  · intro read
    split at read
    · cases read
    · rename_i some
      obtain rfl := Option.some.inj read
      refine ⟨s.dropWhile isLetter, by simp, some, fun c member => List.mem_takeWhile_imp member, ?_⟩
      intro c first
      have stops := List.head?_dropWhile_not isLetter s
      rw [Option.mem_def.mp first] at stops
      simpa using stops
  · intro named
    obtain ⟨back, rfl, some, letters, ends⟩ := named
    rw [Text.takeWhile_append_of_stops letters ends, if_neg some]

theorem assigned?_eq_some_iff {s name : List Char} : assigned? s = some name ↔
    ∃ gap gap' quote back, s = gap ++ '=' :: (gap' ++ (quote ++ (name ++ back))) ∧
      (∀ c ∈ gap, Text.isBlank c) ∧ (∀ c ∈ gap', Text.isBlank c) ∧ (quote = [] ∨ quote = ['"'] ∨ quote = ['\'']) ∧
      name ≠ [] ∧ (∀ c ∈ name, isLetter c) ∧ ∀ c ∈ back.head?, ¬isLetter c := by
  unfold assigned?
  constructor
  · intro read
    split at read
    · rename_i value dropped
      obtain ⟨back, named, spells⟩ := leading?_eq_some_iff.mp read
      obtain ⟨whole, blank, -⟩ := Text.cut_iff.mp ⟨rfl, dropped⟩
      obtain ⟨quote, quoted, quoting⟩ := exists_quote (value.dropWhile Text.isBlank)
      refine ⟨_, value.takeWhile Text.isBlank, quote, back, ?_, blank, ?_, quoting, spells⟩
      · rw [← named, ← quoted, List.takeWhile_append_dropWhile, ← whole]
      · exact fun c member => List.mem_takeWhile_imp member
    · cases read
  · intro assigns
    obtain ⟨gap, gap', quote, back, rfl, blank, blank', quoting, some, letters, ends⟩ := assigns
    obtain ⟨c, more, rfl⟩ := List.exists_cons_of_ne_nil some
    have letter : isLetter c := letters c List.mem_cons_self
    have dropped (v : List Char) : (gap ++ '=' :: v).dropWhile Text.isBlank = '=' :: v :=
      (Text.cut_iff.mpr ⟨rfl, blank, by decide⟩).2
    have trimmed : (gap' ++ (quote ++ (c :: more ++ back))).dropWhile Text.isBlank =
        quote ++ (c :: more ++ back) := by
      rw [List.dropWhile_append_of_pos blank']
      rcases quoting with rfl | rfl | rfl
      · exact List.dropWhile_cons_of_neg (not_isBlank_of_isLetter letter)
      · rfl
      · rfl
    have unquoted : unquote (quote ++ (c :: more ++ back)) = c :: more ++ back :=
      unquote_append quoting ⟨c, more ++ back, rfl, letter⟩
    simp only [dropped, trimmed]
    rw [unquoted]
    exact leading?_eq_some_iff.mpr ⟨back, rfl, some, letters, ends⟩

theorem langAt?_eq_some_iff {s name : List Char} : langAt? s = some name ↔ Assigns s name := by
  simp only [langAt?_eq, Option.bind_eq_some_iff, Text.dropHead?_eq_some, assigned?_eq_some_iff]
  constructor
  · intro read
    obtain ⟨behind, rfl, gap, gap', quote, back, rfl, parts⟩ := read
    exact ⟨gap, gap', quote, back, by rw [List.append_assoc], parts⟩
  · intro assigns
    obtain ⟨gap, gap', quote, back, rfl, parts⟩ := assigns
    exact ⟨_, List.append_assoc .., gap, gap', quote, back, rfl, parts⟩

def Bounded (previous : Option Char) (front : List Char) : Prop :=
  ∀ c ∈ front.getLast?.or previous, ¬Unicode.isWord c

theorem bounded_cons (previous : Option Char) (c : Char) (front : List Char) :
    Bounded previous (c :: front) ↔ Bounded (some c) front := by
  unfold Bounded
  rw [List.getLast?_cons]
  cases front.getLast? <;> simp

theorem lang?_after_iff {previous : Option Char} {s name : List Char} : lang? previous s = some name ↔
    ∃ front rest, s = front ++ rest ∧ Bounded previous front ∧ langAt? rest = some name ∧
      ∀ front' rest', s = front' ++ rest' → Bounded previous front' → front'.length < front.length →
        langAt? rest' = none := by
  -- The first place is here, or it is the first of the rest with one more character in front.
  induction s generalizing previous with
  | nil =>
    refine iff_of_false nofun ?_
    rintro ⟨front, rest, whole, -, found, -⟩
    obtain ⟨-, rfl⟩ := List.append_eq_nil_iff.mp whole.symm
    cases found
  | cons c s ih =>
    have start : (previous.all fun p => !Unicode.isWord p) = true ↔ Bounded previous [] := by
      cases previous <;> simp [Bounded]
    unfold lang?
    dsimp only
    constructor
    · intro named
      rcases Option.or_eq_some_iff.mp named with here | ⟨notHere, later⟩
      · split at here
        · rename_i bounded
          exact ⟨[], c :: s, rfl, start.mp bounded, here, by simp⟩
        · cases here
      · obtain ⟨front, rest, rfl, bounded, found, first⟩ := ih.mp later
        refine ⟨c :: front, rest, rfl, (bounded_cons ..).mpr bounded, found, ?_⟩
        intro front' rest' whole bounded' shorter
        cases front' with
        | nil =>
          rw [if_pos (start.mpr bounded')] at notHere
          rwa [← show c :: (front ++ rest) = rest' from whole]
        | cons d front' =>
          obtain ⟨rfl, inner⟩ := List.cons.inj whole
          exact first front' rest' inner ((bounded_cons ..).mp bounded') (by simpa using shorter)
    · intro named
      obtain ⟨front, rest, whole, bounded, found, first⟩ := named
      apply Option.or_eq_some_iff.mpr
      cases front with
      | nil =>
        left
        rwa [if_pos (start.mpr bounded), show c :: s = rest from whole]
      | cons d front =>
        obtain ⟨rfl, rfl⟩ := List.cons.inj whole
        right
        constructor
        · split
          · rename_i bounded'
            exact first [] _ rfl (start.mp bounded') (by simp)
          · rfl
        · apply ih.mpr
          refine ⟨front, rest, rfl, (bounded_cons ..).mp bounded, found, ?_⟩
          intro front' rest' inner bounded' shorter
          apply first (c :: front') rest' (congrArg (c :: ·) inner) ((bounded_cons ..).mpr bounded')
          simpa using shorter

/-- The first word in a text that assigns a language assigns `name`. -/
def Names (attributes name : List Char) : Prop :=
  ∃ front rest, attributes = front ++ rest ∧ (∀ c ∈ front.getLast?, ¬Unicode.isWord c) ∧ Assigns rest name ∧
    ∀ front' rest' name', attributes = front' ++ rest' → (∀ c ∈ front'.getLast?, ¬Unicode.isWord c) →
      Assigns rest' name' → front.length ≤ front'.length

theorem lang?_eq_some_iff {attributes name : List Char} :
    lang? none attributes = some name ↔ Names attributes name := by
  have bounded (front : List Char) : Bounded none front ↔ ∀ c ∈ front.getLast?, ¬Unicode.isWord c := by
    rw [Bounded, Option.or_none]
  have unread (rest : List Char) : langAt? rest = none ↔ ∀ name, ¬Assigns rest name := by
    simp only [Option.eq_none_iff_forall_ne_some, ne_eq, langAt?_eq_some_iff]
  rw [lang?_after_iff, Names]
  simp only [bounded, unread, langAt?_eq_some_iff]
  constructor
  · intro found
    obtain ⟨front, rest, whole, word, assigns, first⟩ := found
    refine ⟨front, rest, whole, word, assigns, ?_⟩
    intro front' rest' name' whole' word' assigns'
    by_contra shorter
    exact first front' rest' whole' word' (by omega) name' assigns'
  · intro found
    obtain ⟨front, rest, whole, word, assigns, first⟩ := found
    refine ⟨front, rest, whole, word, assigns, ?_⟩
    intro front' rest' whole' word' shorter name' assigns'
    have longer := first front' rest' name' whole' word' assigns'
    omega

end Lang

end DeclBundle.Component
