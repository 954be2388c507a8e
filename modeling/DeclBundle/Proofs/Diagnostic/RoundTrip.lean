import DeclBundle.Proofs.Diagnostic.Reading
import DeclBundle.Proofs.Text.Lines

namespace DeclBundle

structure Position.Legible (p : Position) : Prop where
  named : p.file.text ≠ ""
  oneLine : '\n' ∉ p.file.text.toList
  line_lt : p.line < Nat.pow 2 32
  column_lt : p.column < Nat.pow 2 32

namespace Diagnostic

section Numerals

theorem isDigit_of_ascii {c : Char} (digit : c.isDigit) : Unicode.isDigit c := by
  have bounds : 48 ≤ c.toNat ∧ c.toNat ≤ 57 := by
    simp only [Char.isDigit, Bool.and_eq_true, decide_eq_true_eq, ge_iff_le, UInt32.le_iff_toNat_le] at digit
    exact digit
  unfold Unicode.isDigit
  rw [if_pos (by omega)]
  exact digit

theorem isDigit_of_mem_numeral {n : Nat} {c : Char} (member : c ∈ (toString n).toList) : c.isDigit := by
  rw [Nat.toString_eq_repr, Nat.toList_repr] at member
  exact Nat.isDigit_of_mem_toDigits (by decide) (by decide) member

theorem isNumber_numeral (n : Nat) : IsNumber (toString n).toList := by
  constructor
  · simp
  · exact fun c member => isDigit_of_ascii (isDigit_of_mem_numeral member)

theorem numberOf_numeral {n : Nat} (small : n < Nat.pow 2 32) : numberOf (toString n).toList = n := by
  have written : Text.decimal (toString n).toList = n := by
    rw [Nat.toString_eq_repr, Nat.toList_repr]
    exact Nat.ofDigitChars_ten_toDigits
  have digits : (toString n).toList.all Char.isDigit :=
    List.all_eq_true.mpr fun c member => isDigit_of_mem_numeral member
  unfold numberOf
  dsimp only
  rw [written, digits, if_pos (by simpa using small)]

end Numerals

section Marks

def IsMark (s : List Char) : Prop :=
  ∃ line column category digits, IsNumber line ∧ IsNumber column ∧ IsNumber digits ∧
    s = positionMark line column ++ headlineText category digits []

theorem isSome_marker?_iff {s : List Char} : (marker? s).isSome ↔ ∃ mark, IsMark mark ∧ mark <+: s := by
  constructor
  · intro read
    obtain ⟨m, read⟩ := Option.isSome_iff_exists.mp read
    obtain ⟨line, column, category, digits, message, row, position, code, -, rfl⟩ :=
      marker?_eq_some_iff.mp read
    exact ⟨_, ⟨line, column, category, digits, row, position, code, rfl⟩, message, by
      simp [headlineText]⟩
  · intro marked
    obtain ⟨_, ⟨line, column, category, digits, row, position, code, rfl⟩, message, rfl⟩ := marked
    exact Option.isSome_of_eq_some (marker?_eq_some_iff.mpr
      ⟨line, column, category, digits, message, row, position, code, rfl, by simp [headlineText]⟩)

theorem lastMarker?_eq_none_iff {s : List Char} :
    lastMarker? s = none ↔ ∀ mark, IsMark mark → ¬mark <:+: s := by
  rw [← Option.not_isSome_iff_eq_none, isSome_lastMarker?_iff]
  constructor
  · intro none mark isMark inside
    obtain ⟨front, back, rfl⟩ := inside
    exact none ⟨front, mark ++ back, List.append_assoc .., isSome_marker?_iff.mpr
      ⟨mark, isMark, List.prefix_append ..⟩⟩
  · intro none found
    obtain ⟨front, back, rfl, marked⟩ := found
    obtain ⟨mark, isMark, start⟩ := isSome_marker?_iff.mp marked
    exact none mark isMark (start.isInfix.trans (List.suffix_append ..).isInfix)

theorem marker?_cons_of_ne {c : Char} (other : '(' ≠ c) (s : List Char) : marker? (c :: s) = none := by
  simp [marker?, Text.dropHead?, other]

theorem lastMarker?_append_of_not_mem {front s : List Char} (clean : '(' ∉ front)
    (none : lastMarker? s = none) : lastMarker? (front ++ s) = Option.none := by
  induction front with
  | nil => exact none
  | cons c front ih =>
    have other : '(' ≠ c := fun same => clean (same ▸ List.mem_cons_self)
    rw [List.cons_append, lastMarker?, ih fun member => clean (List.mem_cons_of_mem c member),
      marker?_cons_of_ne other]
    rfl

theorem lastMarker?_append_of_eq_some {s before : List Char} {m : Marker}
    (last : lastMarker? s = some (before, m)) (front : List Char) :
    lastMarker? (front ++ s) = some (front ++ before, m) := by
  induction front with
  | nil => exact last
  | cons c front ih => rw [List.cons_append, lastMarker?, ih, List.cons_append]

theorem paren_notMem_number {digits : List Char} (number : IsNumber digits) : '(' ∉ digits := by
  intro member
  have digit := number.2 _ member
  exact absurd digit (by decide)

theorem paren_notMem_headline (category : Category) {digits : List Char} (code : IsNumber digits) :
    '(' ∉ headlineText category digits [] := by
  have label : '(' ∉ category.label.toList := by cases category <;> decide
  simp [headlineText, label, paren_notMem_number code]

theorem lastMarker?_located {line column digits message : List Char} (row : IsNumber line)
    (position : IsNumber column) (category : Category) (code : IsNumber digits)
    (unmarked : lastMarker? message = none) (name : List Char) :
    lastMarker? (name ++ (positionMark line column ++ headlineText category digits message)) =
      some (name, ⟨numberOf line, numberOf column, category, numberOf digits, message⟩) := by
  let tail := line ++ ([','] ++ (column ++ "): ".toList)) ++ headlineText category digits []
  have whole : positionMark line column ++ headlineText category digits message =
      '(' :: (tail ++ message) := by
    simp [positionMark, headlineText, tail]
  have clean : '(' ∉ tail := by
    simp [tail, paren_notMem_number row, paren_notMem_number position, paren_notMem_headline category code]
  have mark : marker? ('(' :: (tail ++ message)) =
      some ⟨numberOf line, numberOf column, category, numberOf digits, message⟩ :=
    whole ▸ marker?_eq_some_iff.mpr ⟨line, column, category, digits, message, row, position, code, rfl, rfl⟩
  have last : lastMarker? ('(' :: (tail ++ message)) =
      some ([], ⟨numberOf line, numberOf column, category, numberOf digits, message⟩) := by
    rw [lastMarker?, lastMarker?_append_of_not_mem clean unmarked, mark]
    rfl
  rw [whole, lastMarker?_append_of_eq_some last, List.append_nil]

theorem lastMarker?_headline (category : Category) {digits message : List Char} (code : IsNumber digits)
    (unmarked : lastMarker? message = none) :
    lastMarker? (headlineText category digits message) = none := by
  have whole : headlineText category digits message = headlineText category digits [] ++ message := by
    simp [headlineText]
  rw [whole]
  exact lastMarker?_append_of_not_mem (paren_notMem_headline category code) unmarked

end Marks

section Lines

variable (locate : String → Path)

theorem ofLine?_located {name line column digits message : List Char} (named : name ≠ [])
    (row : IsNumber line) (position : IsNumber column) (category : Category) (code : IsNumber digits)
    (unmarked : lastMarker? message = none) :
    ofLine? locate (name ++ (positionMark line column ++ headlineText category digits message)) =
      some ⟨category, numberOf digits, String.ofList message,
        some ⟨locate (String.ofList name), numberOf line, numberOf column⟩⟩ := by
  obtain ⟨c, rest, rfl⟩ := List.exists_cons_of_ne_nil named
  simp only [ofLine?, lastMarker?_located row position category code unmarked]

theorem ofLine?_headline (category : Category) {digits message : List Char} (code : IsNumber digits)
    (unmarked : lastMarker? message = none) :
    ofLine? locate (headlineText category digits message) =
      some ⟨category, numberOf digits, String.ofList message, none⟩ := by
  have read : headline? (headlineText category digits message) = some (category, numberOf digits, message) :=
    headline?_eq_some_iff.mpr ⟨digits, code, rfl, rfl⟩
  simp [ofLine?, lastMarker?_headline category code unmarked, read]

theorem ofLine?_of_blank {c : Char} (blank : Text.isBlank c) {s : List Char}
    (unmarked : lastMarker? (c :: s) = none) : ofLine? locate (c :: s) = none := by
  rw [← Option.not_isSome_iff_eq_none, isSome_ofLine?_iff]
  intro announces
  generalize written : c :: s = line at announces unmarked
  cases announces with
  | bare category code message =>
    have first := congrArg List.head? written
    rw [head?_headlineText] at first
    have dark : ∀ c ∈ category.label.toList.head?, Text.isBlank c = false := by
      cases category <;> simp [Category.label, Text.isBlank]
    simp [dark c first.symm] at blank
  | @located file line column _ row position category digits code message =>
    apply lastMarker?_eq_none_iff.mp unmarked (positionMark line column ++ headlineText category digits [])
    · exact ⟨line, column, category, digits, row, position, code, rfl⟩
    · exact ⟨file, message, by simp [headlineText]⟩

theorem Reading.add_of_ofLine? {line : List Char} {d : Diagnostic} (read : ofLine? locate line = some d)
    (r : Reading) : r.add locate line = { r with diagnostics := d :: r.diagnostics } := by
  have dark : Text.allBlank line = false :=
    ((isSome_ofLine?_iff locate line).mp (Option.isSome_of_eq_some read)).not_allBlank
  simp [add, dark, read]

def Reading.Has (r : Reading) (d : Diagnostic) : Prop :=
  ∃ more, { d with message := d.message ++ more } ∈ r.diagnostics

theorem Reading.Has.add {r : Reading} {d : Diagnostic} (has : r.Has d) (line : List Char) :
    (r.add locate line).Has d := by
  obtain ⟨more, member⟩ := has
  unfold Reading.add
  split
  · exact ⟨more, member⟩
  · cases ofLine? locate line with
    | some other => exact ⟨more, List.mem_cons_of_mem other member⟩
    | none =>
      dsimp only
      split
      · rename_i latest earlier last _
        rw [last] at member
        rcases List.mem_cons.mp member with rfl | member
        · refine ⟨more ++ ("\n" ++ String.ofList (Text.trimEnd line)), List.mem_cons.mpr (.inl ?_)⟩
          simp [addLine, String.append_assoc]
        · exact ⟨more, List.mem_cons_of_mem _ member⟩
      · exact ⟨more, member⟩

theorem Reading.Has.foldl {r : Reading} {d : Diagnostic} (has : r.Has d) (lines : List (List Char)) :
    (lines.foldl (Reading.add locate) r).Has d := by
  induction lines generalizing r with
  | nil => exact has
  | cons line lines ih => exact ih (has.add locate line)

theorem exists_mem_parse_of_located {s name line column digits message : List Char} (named : name ≠ [])
    (row : IsNumber line) (position : IsNumber column) (category : Category) (code : IsNumber digits)
    (unmarked : lastMarker? message = none)
    (member : name ++ (positionMark line column ++ headlineText category digits message) ∈ Text.lines s) :
    ∃ more, Diagnostic.mk category (numberOf digits) (String.ofList message ++ more)
      (some ⟨locate (String.ofList name), numberOf line, numberOf column⟩) ∈ (parse locate s).1 := by
  obtain ⟨before, after, lines⟩ := List.append_of_mem member
  have read := ofLine?_located locate named row position category code unmarked
  have begun (r : Reading) := Reading.add_of_ofLine? locate read r
  unfold parse
  dsimp only
  rw [lines, List.foldl_append, List.foldl_cons, begun]
  have fresh (r : Reading) (d : Diagnostic) : Reading.Has { r with diagnostics := d :: r.diagnostics } d :=
    ⟨"", by simp⟩
  obtain ⟨more, found⟩ := (fresh _ _).foldl locate after
  exact ⟨more, List.mem_reverse.mpr found⟩

end Lines

section Messages

/-- A line that goes on with a message and is kept as it is. -/
structure Continues (line : List Char) : Prop where
  indented : ∃ c s, line = c :: s ∧ Text.isBlank c
  trimmed : ∀ c ∈ line.getLast?, Text.isBlank c = false

theorem Continues.not_allBlank {line : List Char} (continues : Continues line) :
    Text.allBlank line = false := by
  obtain ⟨c, s, rfl, -⟩ := continues.indented
  apply List.all_eq_false.mpr
  have dark := continues.trimmed _ (List.getLast?_eq_some_getLast (List.cons_ne_nil c s))
  exact ⟨_, List.getLast_mem (List.cons_ne_nil c s), by simp [dark]⟩

theorem Reading.add_of_continues (locate : String → Path) {line : List Char} (continues : Continues line)
    (unmarked : lastMarker? line = none) (d : Diagnostic) (earlier : List Diagnostic)
    (unknown : List String) :
    Reading.add locate ⟨d :: earlier, unknown⟩ line =
      ⟨{ d with message := d.message ++ String.ofList ('\n' :: line) } :: earlier, unknown⟩ := by
  have kept := Text.trimEnd_eq_self continues.trimmed
  have dark := continues.not_allBlank
  obtain ⟨c, s, rfl, blank⟩ := continues.indented
  simp [add, dark, ofLine?_of_blank locate blank unmarked, blank, addLine, kept, String.append_assoc]

theorem Reading.foldl_of_continues (locate : String → Path) {further : List (List Char)}
    (continues : ∀ line ∈ further, Continues line ∧ lastMarker? line = none) (d : Diagnostic)
    (earlier : List Diagnostic) (unknown : List String) :
    further.foldl (Reading.add locate) ⟨d :: earlier, unknown⟩ =
      ⟨{ d with message := d.message ++ String.ofList (further.flatMap ('\n' :: ·)) } :: earlier, unknown⟩ := by
  induction further generalizing d with
  | nil => simp
  | cons line further ih =>
    obtain ⟨goesOn, unmarked⟩ := continues line List.mem_cons_self
    have rest := fun line member => continues line (List.mem_cons_of_mem _ member)
    rw [List.foldl_cons, add_of_continues locate goesOn unmarked, ih rest]
    simp [String.append_assoc]

def messageLines (d : Diagnostic) : List (List Char) := d.message.toList.splitOn '\n'

def opening (d : Diagnostic) : List Char :=
  (positionText d.position).toList ++ headlineText d.category (toString d.code).toList []

theorem toList_text (d : Diagnostic) : d.text.toList = d.opening ++ d.message.toList := by
  simp [text, opening, headlineText]

/-- A diagnostic whose text tells what each of its lines is. -/
structure Legible (d : Diagnostic) : Prop where
  code_lt : d.code < Nat.pow 2 32
  position : ∀ p ∈ d.position, p.Legible
  first : ∀ line ∈ d.messageLines.head?, line.getLast? ≠ some '\r'
  further : ∀ line ∈ d.messageLines.tail, Continues line
  unmarked : ∀ line ∈ d.messageLines, ∀ mark, IsMark mark → ¬mark <:+: line

variable {d : Diagnostic}

theorem exists_messageLines (d : Diagnostic) :
    ∃ first further, d.messageLines = first :: further ∧
      d.message = String.ofList (first ++ further.flatMap ('\n' :: ·)) := by
  obtain ⟨first, further, pieces⟩ := List.exists_cons_of_ne_nil (List.splitOn_ne_nil '\n' d.message.toList)
  have whole : ['\n'].intercalate (d.message.toList.splitOn '\n') = d.message.toList :=
    List.intercalate_splitOn '\n'
  rw [pieces, Text.intercalate_cons] at whole
  exact ⟨first, further, pieces, by rw [whole, String.ofList_toList]⟩

theorem Legible.newline_notMem_opening (legible : d.Legible) : '\n' ∉ d.opening := by
  have numeral (n : Nat) : '\n' ∉ Nat.toDigits 10 n := by
    intro member
    exact absurd (Nat.isDigit_of_mem_toDigits (by decide) (by decide) member) (by decide)
  have label : '\n' ∉ d.category.label.toList := by cases d.category <;> decide
  have position : '\n' ∉ (positionText d.position).toList := by
    cases at_ : d.position with
    | none => simp [positionText]
    | some p =>
      have file := (legible.position p at_).oneLine
      simp [positionText, file, numeral]
  simp [opening, headlineText, position, label, numeral]

theorem Legible.splitOn_text (legible : d.Legible) {first : List Char} {further : List (List Char)}
    (lines : d.messageLines = first :: further) :
    d.text.toList.splitOn '\n' = (d.opening ++ first) :: further := by
  have message : d.message.toList.splitOn '\n' = first :: further := lines
  rw [toList_text, Text.splitOn_append_of_not_mem legible.newline_notMem_opening, message,
    List.modifyHead_cons]

theorem Legible.ofLine?_opening (legible : d.Legible) {first : List Char}
    (unmarked : lastMarker? first = none) :
    ofLine? Path.mk (d.opening ++ first) = some { d with message := String.ofList first } := by
  have code := numberOf_numeral legible.code_lt
  have whole (front : List Char) : front ++ headlineText d.category (toString d.code).toList [] ++ first =
      front ++ headlineText d.category (toString d.code).toList first := by
    simp [headlineText]
  unfold opening
  rw [whole]
  cases at_ : d.position with
  | none =>
    have read := ofLine?_headline Path.mk d.category (isNumber_numeral d.code) unmarked
    rw [code] at read
    exact read
  | some p =>
    have place := legible.position p at_
    have named : p.file.text.toList ≠ [] := by simpa using place.named
    have read := ofLine?_located Path.mk named (isNumber_numeral p.line) (isNumber_numeral p.column) d.category
      (isNumber_numeral d.code) unmarked
    rw [code, numberOf_numeral place.line_lt, numberOf_numeral place.column_lt, String.ofList_toList] at read
    have written : (positionText (some p)).toList =
        p.file.text.toList ++ positionMark (toString p.line).toList (toString p.column).toList := by
      simp [positionText, positionMark]
    rw [written, List.append_assoc]
    exact read

theorem Legible.foldl_text (legible : d.Legible) (r : Reading) :
    (d.text.toList.splitOn '\n').foldl (Reading.add Path.mk) r =
      { r with diagnostics := d :: r.diagnostics } := by
  obtain ⟨first, further, lines, message⟩ := d.exists_messageLines
  have unmarked : ∀ line ∈ first :: further, lastMarker? line = none := fun line member =>
    lastMarker?_eq_none_iff.mpr (legible.unmarked line (lines ▸ member))
  have continues : ∀ line ∈ further, Continues line ∧ lastMarker? line = none := by
    intro line member
    exact ⟨legible.further line (by simpa [lines] using member), unmarked line (List.mem_cons_of_mem _ member)⟩
  rw [legible.splitOn_text lines, List.foldl_cons,
    Reading.add_of_ofLine? _ (legible.ofLine?_opening (unmarked first List.mem_cons_self)),
    Reading.foldl_of_continues _ continues]
  rw [← String.ofList_append, ← message]

theorem Legible.line_of_text (legible : d.Legible) {line : List Char}
    (member : line ∈ d.text.toList.splitOn '\n') : line ≠ [] ∧ line.getLast? ≠ some '\r' := by
  obtain ⟨first, further, lines, -⟩ := d.exists_messageLines
  rw [legible.splitOn_text lines] at member
  rcases List.mem_cons.mp member with rfl | later
  · obtain ⟨front, opening⟩ : ∃ front, d.opening = front ++ [' '] :=
      ⟨(positionText d.position).toList ++ (d.category.label.toList ++ " TS".toList) ++
        (toString d.code).toList ++ [':'], by simp [opening, headlineText]⟩
    have own : first.getLast? ≠ some '\r' := legible.first first (by simp [lines])
    constructor
    · simp [opening]
    · rw [opening, List.getLast?_append, List.getLast?_concat]
      cases last : first.getLast? with
      | none => decide
      | some c => simpa [last] using own
  · have continues := legible.further line (by simpa [lines] using later)
    constructor
    · obtain ⟨c, s, rfl, -⟩ := continues.indented
      exact List.cons_ne_nil c s
    · intro returned
      exact absurd (continues.trimmed _ returned) (by decide)

theorem toList_format (ds : List Diagnostic) :
    (format ds).toList = ['\n'].intercalate (ds.map fun d => d.text.toList) := by
  simp [format, Function.comp_def]

theorem lines_format {ds : List Diagnostic} (legible : ∀ d ∈ ds, d.Legible) :
    Text.lines (format ds).toList = ds.flatMap fun d => d.text.toList.splitOn '\n' := by
  by_cases some : ds = []
  · subst some
    rfl
  · have pieces : (format ds).toList.splitOn '\n' = ds.flatMap fun d => d.text.toList.splitOn '\n' := by
      rw [toList_format, Text.splitOn_intercalate_texts '\n' (by simpa using some), List.flatMap_map]
    have each : ∀ line ∈ (format ds).toList.splitOn '\n', line ≠ [] ∧ line.getLast? ≠ .some '\r' := by
      intro line member
      rw [pieces] at member
      obtain ⟨d, listed, member⟩ := List.mem_flatMap.mp member
      exact (legible d listed).line_of_text member
    rw [← pieces]
    exact Text.lines_eq_splitOn (fun line member => (each line member).2)
      fun line last => (each line (List.mem_of_getLast? last)).1

theorem foldl_texts {ds : List Diagnostic} (legible : ∀ d ∈ ds, d.Legible) (r : Reading) :
    ds.foldl (fun r d => (d.text.toList.splitOn '\n').foldl (Reading.add Path.mk) r) r =
      { r with diagnostics := ds.reverse ++ r.diagnostics } := by
  induction ds generalizing r with
  | nil => rfl
  | cons d ds ih =>
    rw [List.foldl_cons, (legible d List.mem_cons_self).foldl_text,
      ih fun d member => legible d (List.mem_cons_of_mem _ member)]
    simp

/-- What is written for a list of diagnostics is read as that list, and no line of it is left over. -/
theorem parse_format {ds : List Diagnostic} (legible : ∀ d ∈ ds, d.Legible) :
    parse Path.mk (format ds).toList = (ds, []) := by
  have read : (Text.lines (format ds).toList).foldl (Reading.add Path.mk) ⟨[], []⟩ = ⟨ds.reverse, []⟩ := by
    rw [lines_format legible, List.foldl_flatMap, foldl_texts legible, List.append_nil]
  unfold parse
  dsimp only
  rw [read, List.reverse_reverse]

def sizeReport : Diagnostic :=
  ⟨.error, 2322, "Type 'Menu' is not a 'Card'.\n  Property 'size' (2,1) is missing.",
    some ⟨"/proj/src/old(1,2): error TS9: menu.ts", 4294967295, 7⟩⟩

def bareReport : Diagnostic := ⟨.warning, 0, "", none⟩

theorem legible_sizeReport : sizeReport.Legible := by
  have lines : sizeReport.messageLines =
      ["Type 'Menu' is not a 'Card'.".toList, "  Property 'size' (2,1) is missing.".toList] := by
    decide +kernel
  refine ⟨by decide, ?_, ?_, ?_, ?_⟩
  · intro p at_
    cases at_
    exact ⟨by decide, by decide, by decide, by decide⟩
  · rw [lines]
    decide
  · rw [lines]
    intro line member
    rw [List.mem_singleton.mp member]
    exact ⟨⟨' ', " Property 'size' (2,1) is missing.".toList, rfl, rfl⟩, by simp [Text.isBlank]⟩
  · rw [lines]
    intro line member
    apply lastMarker?_eq_none_iff.mp
    rcases List.mem_pair.mp member with rfl | rfl <;> rfl

theorem legible_bareReport : bareReport.Legible := by
  have lines : bareReport.messageLines = [[]] := rfl
  refine ⟨by decide, nofun, ?_, ?_, ?_⟩ <;> rw [lines]
  · decide
  · exact nofun
  · intro line member
    rw [List.mem_singleton.mp member]
    exact lastMarker?_eq_none_iff.mp rfl

theorem parse_format_reports :
    sizeReport.Legible ∧ bareReport.Legible ∧
      parse Path.mk (format [sizeReport, bareReport]).toList = ([sizeReport, bareReport], []) := by
  refine ⟨legible_sizeReport, legible_bareReport, parse_format ?_⟩
  intro d member
  rcases List.mem_pair.mp member with rfl | rfl
  · exact legible_sizeReport
  · exact legible_bareReport

end Messages

end Diagnostic

end DeclBundle
