import DeclBundle.Diagnostic.Parser
import Mathlib.Data.List.TakeWhile

namespace DeclBundle.Diagnostic

def IsNumber (s : List Char) : Prop := s ≠ [] ∧ ∀ c ∈ s, Unicode.isDigit c

def headlineText (category : Category) (digits message : List Char) : List Char :=
  category.label.toList ++ (" TS".toList ++ (digits ++ (": ".toList ++ message)))

def positionMark (line column : List Char) : List Char :=
  ['('] ++ (line ++ ([','] ++ (column ++ "): ".toList)))

theorem takeWhile_digits {digits : List Char} (number : IsNumber digits) {c : Char}
    (other : Unicode.isDigit c = false) (rest : List Char) :
    (digits ++ c :: rest).takeWhile Unicode.isDigit = digits := by
  rw [List.takeWhile_append_of_pos number.2, List.takeWhile_cons_of_neg (by simp [other]), List.append_nil]

theorem number?_append {digits : List Char} (number : IsNumber digits) {c : Char}
    (other : Unicode.isDigit c = false) (rest : List Char) :
    number? (digits ++ c :: rest) = some (numberOf digits, c :: rest) := by
  unfold number?
  dsimp only
  rw [takeWhile_digits number other, if_neg (by simpa using number.1),
    List.dropWhile_append_of_pos number.2, List.dropWhile_cons_of_neg (by simp [other])]

theorem exists_of_number? {s rest : List Char} {n : Nat} (read : number? s = some (n, rest)) :
    ∃ digits, IsNumber digits ∧ n = numberOf digits ∧ s = digits ++ rest := by
  unfold number? at read
  dsimp only at read
  split at read
  · cases read
  · rename_i some
    cases read
    exact ⟨_, ⟨by simpa using some, fun c member => List.mem_takeWhile_imp member⟩, rfl,
      List.takeWhile_append_dropWhile.symm⟩

def readAs (s : List Char) (category : Category) : Option (Category × Nat × List Char) := do
  let s ← Text.dropHead? category.label.toList s
  let s ← Text.dropHead? " TS".toList s
  let (code, s) ← number? s
  let s ← Text.dropHead? ": ".toList s
  return (category, code, s)

theorem readAs_eq_some_iff {s message : List Char} {category category' : Category} {code : Nat} :
    readAs s category = some (category', code, message) ↔ category = category' ∧
      ∃ digits, IsNumber digits ∧ code = numberOf digits ∧ s = headlineText category digits message := by
  simp only [readAs, Option.bind_eq_bind, Option.bind_eq_some_iff, Text.dropHead?_eq_some,
    Option.pure_def, Option.some.injEq, Prod.mk.injEq]
  constructor
  · rintro ⟨s₁, rfl, s₂, rfl, ⟨n, s₃⟩, number, s₄, rfl, rfl, rfl, rfl⟩
    obtain ⟨digits, digital, rfl, rfl⟩ := exists_of_number? number
    exact ⟨rfl, digits, digital, rfl, rfl⟩
  · rintro ⟨rfl, digits, digital, rfl, rfl⟩
    have number := number?_append digital (c := ':') (by decide) (' ' :: message)
    exact ⟨_, rfl, _, rfl, (numberOf digits, ": ".toList ++ message), number, _, rfl, rfl, rfl, rfl⟩

theorem head?_headlineText (category : Category) (digits message : List Char) :
    (headlineText category digits message).head? = category.label.toList.head? := by
  cases category <;> rfl

theorem eq_of_head?_label {category category' : Category}
    (same : category.label.toList.head? = category'.label.toList.head?) : category = category' := by
  cases category <;> cases category' <;> first | rfl | exact absurd same (by decide)

theorem headline?_eq_some_iff {s message : List Char} {category : Category} {code : Nat} :
    headline? s = some (category, code, message) ↔
      ∃ digits, IsNumber digits ∧ code = numberOf digits ∧ s = headlineText category digits message := by
  have tried : headline? s = Category.all.findSome? (readAs s) := rfl
  rw [tried, List.findSome?_eq_some_iff]
  constructor
  · rintro ⟨before, category', after, -, read, -⟩
    obtain ⟨rfl, written⟩ := readAs_eq_some_iff.mp read
    exact written
  · intro written
    have listed : category ∈ Category.all := by cases category <;> decide
    obtain ⟨before, after, split, new⟩ := List.eq_append_cons_of_mem listed
    refine ⟨before, category, after, split, readAs_eq_some_iff.mpr ⟨rfl, written⟩, ?_⟩
    intro other member
    rw [Option.eq_none_iff_forall_ne_some]
    rintro ⟨category', code', message'⟩ read
    obtain ⟨rfl, digits', -, -, same⟩ := readAs_eq_some_iff.mp read
    obtain ⟨digits, -, -, rfl⟩ := written
    have heads := congrArg List.head? same
    rw [head?_headlineText, head?_headlineText] at heads
    exact new (eq_of_head?_label heads ▸ member)

theorem marker?_eq_some_iff {s : List Char} {m : Marker} :
    marker? s = some m ↔ ∃ line column category digits message, IsNumber line ∧ IsNumber column ∧
      IsNumber digits ∧ m = ⟨numberOf line, numberOf column, category, numberOf digits, message⟩ ∧
        s = positionMark line column ++ headlineText category digits message := by
  constructor
  · intro read
    simp only [marker?, Option.bind_eq_bind, Option.bind_eq_some_iff, Text.dropHead?_eq_some,
      Option.pure_def, Option.some.injEq] at read
    obtain ⟨s₁, rfl, ⟨l, s₂⟩, first, s₃, rfl, ⟨c, s₄⟩, second, s₅, rfl, ⟨category, code, message⟩, head,
      rfl⟩ := read
    obtain ⟨line, row, rfl, rfl⟩ := exists_of_number? first
    obtain ⟨column, position, rfl, rfl⟩ := exists_of_number? second
    obtain ⟨digits, digital, rfl, rfl⟩ := headline?_eq_some_iff.mp head
    exact ⟨line, column, category, digits, message, row, position, digital, rfl, by simp [positionMark]⟩
  · rintro ⟨line, column, category, digits, message, row, position, digital, rfl, rfl⟩
    have first (rest : List Char) := number?_append row (c := ',') (by decide) rest
    have second (rest : List Char) := number?_append position (c := ')') (by decide) rest
    have head : headline? (headlineText category digits message) =
        some (category, numberOf digits, message) :=
      headline?_eq_some_iff.mpr ⟨digits, digital, rfl, rfl⟩
    have close : "): ".toList = [')', ':', ' '] := rfl
    simp [marker?, positionMark, Text.dropHead?, first, second, head, close]

theorem isSome_lastMarker?_iff {s : List Char} :
    (lastMarker? s).isSome ↔ ∃ front back, s = front ++ back ∧ (marker? back).isSome := by
  induction s with
  | nil => simp [lastMarker?, marker?, Text.dropHead?]
  | cons c s ih =>
    unfold lastMarker?
    -- A later mark goes before the one that begins here.
    cases last : lastMarker? s with
    | some found =>
      obtain ⟨front, back, rfl, marked⟩ := ih.mp (by simp [last])
      simp only [Option.isSome_some, true_iff]
      exact ⟨c :: front, back, rfl, marked⟩
    | none =>
      simp only [Option.isSome_map]
      constructor
      · exact fun marked => ⟨[], c :: s, rfl, marked⟩
      · rintro ⟨front, back, split, marked⟩
        cases front with
        | nil => exact split ▸ marked
        | cons d front =>
          have later := ih.mpr ⟨front, back, (List.cons.inj split).2, marked⟩
          simp [last] at later

theorem isSome_ofLine?_cons (locate : String → Path) (c : Char) (s : List Char) :
    (ofLine? locate (c :: s)).isSome ↔ (headline? (c :: s)).isSome ∨ (lastMarker? s).isSome := by
  rw [ofLine?, lastMarker?]
  cases lastMarker? s with
  | some found => simp
  | none => cases marker? (c :: s) <;> simp

/-- A line that begins a diagnostic: a category and a code, or the name of a file and a position before
them. -/
inductive Announces : List Char → Prop
  | bare (category : Category) {digits : List Char} (code : IsNumber digits) (message : List Char) :
      Announces (headlineText category digits message)
  | located {file line column : List Char} (named : file ≠ []) (row : IsNumber line)
      (position : IsNumber column) (category : Category) {digits : List Char} (code : IsNumber digits)
      (message : List Char) :
      Announces (file ++ (positionMark line column ++ headlineText category digits message))

theorem isSome_ofLine?_iff (locate : String → Path) (line : List Char) :
    (ofLine? locate line).isSome ↔ Announces line := by
  constructor
  · intro read
    have bare : (headline? line).isSome → Announces line := by
      intro head
      obtain ⟨⟨category, code, message⟩, head⟩ := Option.isSome_iff_exists.mp head
      obtain ⟨digits, digital, rfl, rfl⟩ := headline?_eq_some_iff.mp head
      exact .bare category digital message
    cases line with
    | nil => exact bare (by simpa [ofLine?, lastMarker?] using read)
    | cons c s =>
      rcases (isSome_ofLine?_cons locate c s).mp read with head | last
      · exact bare head
      · obtain ⟨front, back, rfl, marked⟩ := isSome_lastMarker?_iff.mp last
        obtain ⟨m, marked⟩ := Option.isSome_iff_exists.mp marked
        obtain ⟨line, column, category, digits, message, row, position, digital, -, rfl⟩ :=
          marker?_eq_some_iff.mp marked
        exact .located (List.cons_ne_nil c front) row position category digital message
  · intro announces
    cases announces with
    | bare category code message =>
      have head := Option.isSome_of_eq_some
        (headline?_eq_some_iff.mpr ⟨_, code, rfl, rfl⟩ : headline? (headlineText category _ message) = _)
      cases written : headlineText category _ message with
      | nil => simp [headlineText] at written
      | cons c s => exact (isSome_ofLine?_cons locate c s).mpr (.inl (written ▸ head))
    | @located file line column named row position category digits code message =>
      obtain ⟨c, front, rfl⟩ := List.exists_cons_of_ne_nil named
      refine (isSome_ofLine?_cons locate c _).mpr (.inr (isSome_lastMarker?_iff.mpr ⟨front, _, rfl, ?_⟩))
      exact Option.isSome_of_eq_some (marker?_eq_some_iff.mpr
        ⟨line, column, category, digits, message, row, position, code, rfl, rfl⟩)

theorem Announces.not_allBlank {line : List Char} (announces : Announces line) :
    Text.allBlank line = false := by
  have inside : 'T' ∈ line := by
    cases announces <;> simp [headlineText]
  have dark : Text.isBlank 'T' = false := by decide
  exact List.all_eq_false.mpr ⟨'T', inside, by simp [dark]⟩

theorem Reading.diagnostics_add_eq_nil_iff (locate : String → Path) (r : Reading) (line : List Char) :
    (r.add locate line).diagnostics = [] ↔ r.diagnostics = [] ∧ ¬Announces line := by
  rw [← isSome_ofLine?_iff locate]
  unfold add
  split
  · rename_i blank
    have silent : ¬(ofLine? locate line).isSome := by
      rw [isSome_ofLine?_iff]
      intro announces
      simp [announces.not_allBlank] at blank
    simp [silent]
  · cases ofLine? locate line with
    | some d => simp
    | none =>
      dsimp only
      split <;> simp_all

theorem diagnostics_foldl_eq_nil_iff (locate : String → Path) (r : Reading) (lines : List (List Char)) :
    (lines.foldl (Reading.add locate) r).diagnostics = [] ↔
      r.diagnostics = [] ∧ ∀ line ∈ lines, ¬Announces line := by
  induction lines generalizing r with
  | nil => simp
  | cons line lines ih =>
    rw [List.foldl_cons, ih, Reading.diagnostics_add_eq_nil_iff, List.forall_mem_cons, and_assoc]

theorem parse_eq_nil_iff (locate : String → Path) (s : List Char) :
    (parse locate s).1 = [] ↔ ∀ line ∈ Text.lines s, ¬Announces line := by
  change List.reverse _ = [] ↔ _
  rw [List.reverse_eq_nil_iff, diagnostics_foldl_eq_nil_iff]
  exact and_iff_right rfl

end DeclBundle.Diagnostic
