import DeclBundle.Toml.Parser
import Mathlib.Algebra.BigOperators.Group.List.Basic
import Mathlib.Data.List.Forall2

namespace DeclBundle.Toml

def escape (c : Char) : List Char :=
  if c = '"' || c = '\\' then ['\\', c]
  else if isControl c then
    ['\\', 'u', '0', '0', Nat.digitChar (c.toNat / 16), Nat.digitChar (c.toNat % 16)]
  else [c]

def quote (s : String) : List Char := '"' :: (s.toList.flatMap escape ++ ['"'])

theorem hexDigit?_digitChar : ∀ d < 16, Text.hexDigit? (Nat.digitChar d) = some d := by decide

theorem charOf?_toNat (c : Char) : Text.charOf? c.toNat = some c := by
  have valid : c.toNat.isValidChar := c.valid
  simp [Text.charOf?, valid]

theorem codePoint?_escape {c : Char} (small : c.toNat < 256) (rest : List Char) :
    Text.codePoint? 4 ('0' :: '0' :: Nat.digitChar (c.toNat / 16) :: Nat.digitChar (c.toNat % 16) :: rest) =
      some (c, rest) := by
  have zero : Text.hexDigit? '0' = some 0 := by decide
  have high := hexDigit?_digitChar (c.toNat / 16) (by omega)
  have low := hexDigit?_digitChar (c.toNat % 16) (by omega)
  have whole : 16 * (c.toNat / 16) + c.toNat % 16 = c.toNat := by omega
  have number : Text.hexadecimal?
      ['0', '0', Nat.digitChar (c.toNat / 16), Nat.digitChar (c.toNat % 16)] = some c.toNat := by
    simp [Text.hexadecimal?, zero, high, low, whole]
  simp [Text.codePoint?, number, charOf?_toNat]

theorem escape_cases (c : Char) :
    (escape c = [c] ∧ c ≠ '"' ∧ c ≠ '\\' ∧ isControl c = false) ∨
    ∃ e, escape c = '\\' :: e ∧ ∀ rest, escape? (e ++ rest) = some (c, rest) := by
  by_cases special : c = '"' ∨ c = '\\'
  · right
    refine ⟨[c], by simp [escape, special], fun rest => ?_⟩
    rcases special with rfl | rfl <;> rfl
  · obtain ⟨notQuote, notBackslash⟩ := not_or.mp special
    cases control : isControl c with
    | false => exact .inl ⟨by simp [escape, notQuote, notBackslash, control], notQuote, notBackslash, rfl⟩
    | true =>
      have small : c.toNat < 256 := by
        simp only [isControl, Bool.or_eq_true, Bool.and_eq_true, decide_eq_true_eq] at control
        omega
      right
      refine ⟨_, by simp [escape, notQuote, notBackslash, control]; rfl, fun rest => ?_⟩
      exact codePoint?_escape small rest

theorem shortText?_escape (s acc rest : List Char) {fuel : Nat} (enough : s.length < fuel) :
    shortText? '"' fuel acc (s.flatMap escape ++ '"' :: rest) =
      some (String.ofList (acc.reverse ++ s), rest) := by
  induction s generalizing acc fuel with
  | nil =>
    obtain ⟨fuel, rfl⟩ := Nat.exists_eq_add_of_lt enough
    simp [shortText?]
  | cons c s ih =>
    obtain ⟨fuel, rfl⟩ : ∃ n, fuel = n + 1 := ⟨fuel - 1, by omega⟩
    have enough' : s.length < fuel := by simpa using enough
    have next := ih (c :: acc) enough'
    rw [List.reverse_cons, List.append_assoc, List.singleton_append] at next
    rw [List.flatMap_cons, List.append_assoc]
    rcases escape_cases c with ⟨same, notQuote, notBackslash, plain⟩ | ⟨e, written, read⟩
    · rw [same, List.singleton_append, shortText?]
      simp only [notQuote, notBackslash, plain, if_false, decide_false, Bool.false_and, Bool.false_eq_true]
      exact next
    · rw [written, List.cons_append, shortText?]
      simp only [read]
      exact next

theorem exists_escape (c : Char) : ∃ d ds, escape c = d :: ds ∧ d ≠ '"' := by
  rcases escape_cases c with ⟨same, notQuote, -, -⟩ | ⟨e, written, -⟩
  · exact ⟨c, [], same, notQuote⟩
  · exact ⟨'\\', e, written, by decide⟩

theorem length_le_flatMap {α : Type} {write : α → List Char} (something : ∀ a, write a ≠ []) (parts : List α) :
    parts.length ≤ (parts.flatMap write).length := by
  have each : ∀ n ∈ parts.map fun a => (write a).length, 1 ≤ n := by
    intro n member
    obtain ⟨a, -, rfl⟩ := List.mem_map.mp member
    exact List.length_pos_iff.mpr (something a)
  calc parts.length
    _ = (parts.map fun a => (write a).length).length := by rw [List.length_map]
    _ ≤ (parts.map fun a => (write a).length).sum := List.length_le_sum_of_one_le _ each
    _ = (parts.flatMap write).length := by rw [List.length_flatMap]

theorem quoted_ne_quotes {s rest : List Char} (apart : rest.head? ≠ some '"') (more : List Char) :
    s.flatMap escape ++ '"' :: rest ≠ '"' :: '"' :: more := by
  intro same
  cases s with
  | nil =>
    obtain rfl := (List.cons.inj same).2
    exact apart rfl
  | cons c s =>
    obtain ⟨d, ds, written, notQuote⟩ := exists_escape c
    rw [List.flatMap_cons, written] at same
    exact notQuote (List.cons.inj same).1

/-- Behind a quoted text no quote may follow at once: the two would open a text on several lines. -/
theorem text?_quote (s : String) {rest : List Char} (apart : rest.head? ≠ some '"') :
    text? (quote s ++ rest) = some (s, rest) := by
  have whole : quote s ++ rest = '"' :: (s.toList.flatMap escape ++ '"' :: rest) := by simp [quote]
  have enough : s.toList.length < (s.toList.flatMap escape ++ '"' :: rest).length + 1 := by
    have something (c : Char) : escape c ≠ [] := by
      obtain ⟨d, ds, written, -⟩ := exists_escape c
      simp [written]
    have long := length_le_flatMap something s.toList
    rw [List.length_append]
    omega
  have body := shortText?_escape s.toList [] rest enough
  rw [List.reverse_nil, List.nil_append, String.ofList_toList] at body
  rw [whole]
  unfold text?
  split
  · rename_i more same
    exact absurd (List.cons.inj same).2 (quoted_ne_quotes apart more)
  · rename_i same
    simp at same
  · rename_i same
    obtain rfl := (List.cons.inj same).2
    exact body
  · rename_i same
    simp at same
  · rename_i other _
    exact absurd rfl (other _)

def endsGap (c : Char) : Bool := !(isBlank c || c = '\n' || c = '\r' || c = '#')

theorem gap?_of_dropWhile {s rest : List Char} {c : Char} (ends : endsGap c)
    (blanks : s.dropWhile isBlank = c :: rest) (fuel : Nat) : gap? (fuel + 1) s = some (c :: rest) := by
  have differs {d : Char} (inGap : endsGap d = false) (more : List Char) : c :: rest ≠ d :: more := by
    intro same
    rw [(List.cons.inj same).1, inGap] at ends
    cases ends
  unfold gap?
  rw [blanks]
  split
  · rename_i same
    exact absurd same (differs (by decide) _)
  · rename_i same
    exact absurd same (differs (by decide) _)
  · rename_i same
    exact absurd same (differs (by decide) _)
  · rfl

theorem not_isBlank_of_endsGap {c : Char} (ends : endsGap c) : isBlank c = false := by
  cases blank : isBlank c with
  | false => rfl
  | true => simp [endsGap, blank] at ends

theorem gap?_cons {c : Char} (ends : endsGap c) (rest : List Char) (fuel : Nat) :
    gap? (fuel + 1) (c :: rest) = some (c :: rest) :=
  gap?_of_dropWhile ends (by simp [not_isBlank_of_endsGap ends]) fuel

theorem gap?_blank_cons {c : Char} (ends : endsGap c) (rest : List Char) (fuel : Nat) :
    gap? (fuel + 1) (' ' :: c :: rest) = some (c :: rest) :=
  gap?_of_dropWhile ends (by
    rw [List.dropWhile_cons_of_pos (by decide), List.dropWhile_cons_of_neg (by simp [not_isBlank_of_endsGap ends])])
    fuel

/-- The text writes the value: it begins as a text, a list or a table does, and where it stands, the value is read
and then what follows. -/
structure Writes (depth : Nat) (text : List Char) (v : Value) : Prop where
  opens : ∃ c rest, text = c :: rest ∧ (c = '"' ∨ c = '[' ∨ c = '\x7b')
  reads : ∀ fuel rest, text.length < fuel → rest.head? ≠ some '"' →
    value? fuel depth (text ++ rest) = some (v, rest)

theorem Writes.exists_cons {depth : Nat} {text : List Char} {v : Value} (writes : Writes depth text v) :
    ∃ c rest, text = c :: rest ∧ endsGap c ∧ c ≠ ']' := by
  obtain ⟨c, rest, written, begins⟩ := writes.opens
  refine ⟨c, rest, written, ?_⟩
  rcases begins with rfl | rfl | rfl <;> decide

theorem writes_quote (depth : Nat) (s : String) : Writes depth (quote s) (.text s) := by
  refine ⟨⟨'"', _, rfl, .inl rfl⟩, ?_⟩
  intro fuel rest enough apart
  obtain ⟨fuel, rfl⟩ : ∃ n, fuel = n + 1 := ⟨fuel - 1, by omega⟩
  have read := text?_quote s apart
  have whole : quote s ++ rest = '"' :: (s.toList.flatMap escape ++ '"' :: rest) := by simp [quote]
  rw [whole] at read ⊢
  simp [value?, read]

def separated (texts : List (List Char)) : List Char := [',', ' '].intercalate texts

theorem exists_separated_cons (text : List Char) (texts : List (List Char)) :
    ∃ more, separated (text :: texts) = text ++ more := by
  cases texts with
  | nil => exact ⟨[], by simp [separated]⟩
  | cons next texts =>
    refine ⟨[',', ' '] ++ separated (next :: texts), ?_⟩
    rw [separated, List.intercalate_cons_cons, List.append_assoc]
    rfl

theorem items?_item {depth : Nat} {text : List Char} {v : Value} (writes : Writes depth text v)
    (acc : List Value) {s more : List Char} {next : Char}
    (begins : gap? (s.length + 1) s = some (text ++ next :: more)) (ends : endsGap next) (apart : next ≠ '"')
    {fuel : Nat} (enough : text.length < fuel) :
    items? (fuel + 1) depth acc s =
      match next :: more with
      | ',' :: s => items? fuel depth (v :: acc) s
      | ']' :: s => some (.list (v :: acc).reverse, s)
      | _ => none := by
  obtain ⟨c, inner, written, -, notClosed⟩ := writes.exists_cons
  have read := writes.reads fuel (next :: more) enough (by simpa using apart)
  rw [items?, begins]
  simp only [Option.bind_eq_bind, Option.bind_some, written, List.cons_append] at read ⊢
  split
  · rename_i same
    exact absurd (List.cons.inj same).1 notClosed
  · rw [read]
    simp only [Option.bind_some, gap?_cons ends]
    rfl

theorem items?_separated {depth : Nat} {texts : List (List Char)} {vs : List Value}
    (writes : List.Forall₂ (Writes depth) texts vs) (acc : List Value) (rest : List Char) {s : List Char}
    (begins : gap? (s.length + 1) s = some (separated texts ++ ']' :: rest)) {fuel : Nat}
    (enough : (separated texts).length + 1 < fuel) :
    items? fuel depth acc s = some (.list (acc.reverse ++ vs), rest) := by
  -- What is read is gathered in reverse, so the statement is about all that came before.
  induction writes generalizing acc s fuel with
  | nil =>
    obtain ⟨fuel, rfl⟩ : ∃ n, fuel = n + 1 := ⟨fuel - 1, by omega⟩
    have begins' : gap? (s.length + 1) s = some (']' :: rest) := begins
    simp [items?, begins']
  | @cons text v texts vs first others ih =>
    obtain ⟨fuel, rfl⟩ : ∃ n, fuel = n + 1 := ⟨fuel - 1, by omega⟩
    cases others with
    | nil =>
      have alone : separated [text] = text := by simp [separated]
      rw [alone] at begins enough
      rw [items?_item first acc begins (by decide) (by decide) (by omega)]
      simp
    | @cons next w texts vs second others =>
      have both : separated (text :: next :: texts) = text ++ ',' :: ' ' :: separated (next :: texts) := by
        simp [separated, List.intercalate_cons_cons]
      have more : gap? ((' ' :: (separated (next :: texts) ++ ']' :: rest)).length + 1)
          (' ' :: (separated (next :: texts) ++ ']' :: rest)) = some (separated (next :: texts) ++ ']' :: rest) := by
        obtain ⟨c, inner, written, ends, -⟩ := second.exists_cons
        obtain ⟨others, begins⟩ := exists_separated_cons next texts
        rw [begins, written]
        exact gap?_blank_cons ends _ _
      rw [both] at begins enough
      simp only [List.append_assoc, List.cons_append, List.length_append, List.length_cons] at begins enough
      rw [items?_item first acc begins (by decide) (by decide) (by omega)]
      have enough' : (separated (next :: texts)).length + 1 < fuel := by omega
      have tail := ih (v :: acc) more enough'
      simpa using tail

def list (texts : List (List Char)) : List Char := '[' :: (separated texts ++ [']'])

theorem writes_list {depth : Nat} {texts : List (List Char)} {vs : List Value}
    (writes : List.Forall₂ (Writes depth) texts vs) : Writes (depth + 1) (list texts) (.list vs) := by
  refine ⟨⟨'[', _, rfl, .inr (.inl rfl)⟩, ?_⟩
  intro fuel rest enough _
  obtain ⟨fuel, rfl⟩ : ∃ n, fuel = n + 1 := ⟨fuel - 1, by omega⟩
  simp only [list, List.length_cons, List.length_append, List.length_nil] at enough
  have begins : gap? ((separated texts ++ ']' :: rest).length + 1) (separated texts ++ ']' :: rest) =
      some (separated texts ++ ']' :: rest) := by
    cases writes with
    | nil => exact gap?_cons (c := ']') (by decide) rest _
    | @cons text v texts vs first others =>
      obtain ⟨c, inner, written, ends, -⟩ := first.exists_cons
      obtain ⟨more, begins⟩ := exists_separated_cons text texts
      rw [begins, written]
      exact gap?_cons ends _ _
  have enough' : (separated texts).length + 1 < fuel := by omega
  have read := items?_separated writes [] rest begins enough'
  have whole : list texts ++ rest = '[' :: (separated texts ++ ']' :: rest) := by simp [list]
  rw [whole, value?]
  simpa using read

structure IsBare (key : String) : Prop where
  nonempty : key ≠ ""
  plain : key.toList.all isBareKey

instance (key : String) : Decidable (IsBare key) :=
  decidable_of_iff (key ≠ "" ∧ key.toList.all isBareKey) ⟨fun ⟨a, b⟩ => ⟨a, b⟩, fun ⟨a, b⟩ => ⟨a, b⟩⟩

def assignment (key : String) (text : List Char) : List Char := key.toList ++ [' ', '=', ' '] ++ text

theorem ne_of_isBareKey {c d : Char} (bare : isBareKey c) (other : isBareKey d = false) : c ≠ d := by
  rintro rfl
  simp [bare] at other

theorem IsBare.exists_cons {key : String} (bare : IsBare key) :
    ∃ c cs, key.toList = c :: cs ∧ isBareKey c ∧ endsGap c := by
  obtain ⟨c, cs, text⟩ := List.exists_cons_of_ne_nil fun empty => bare.nonempty (String.toList_eq_nil_iff.mp empty)
  have plain := List.all_eq_true.mp bare.plain c (by simp [text])
  have notBlank : c ≠ ' ' ∧ c ≠ '\t' := ⟨ne_of_isBareKey plain (by decide), ne_of_isBareKey plain (by decide)⟩
  have inLine : c ≠ '\n' ∧ c ≠ '\r' ∧ c ≠ '#' :=
    ⟨ne_of_isBareKey plain (by decide), ne_of_isBareKey plain (by decide), ne_of_isBareKey plain (by decide)⟩
  exact ⟨c, cs, text, plain, by simp [endsGap, isBlank, notBlank, inLine]⟩

theorem IsBare.append_ne_cons {key : String} (bare : IsBare key) {d : Char} (other : isBareKey d = false)
    (rest more : List Char) : key.toList ++ rest ≠ d :: more := by
  obtain ⟨c, cs, text, plain, -⟩ := bare.exists_cons
  rw [text, List.cons_append]
  intro same
  exact ne_of_isBareKey plain other (List.cons.inj same).1

theorem IsBare.gap?_append {key : String} (bare : IsBare key) (rest : List Char) (fuel : Nat) :
    gap? (fuel + 1) (key.toList ++ rest) = some (key.toList ++ rest) := by
  obtain ⟨c, cs, text, -, ends⟩ := bare.exists_cons
  rw [text, List.cons_append]
  exact gap?_cons ends _ fuel

theorem keyPart?_bare {key : String} (bare : IsBare key) {rest : List Char}
    (stops : ∀ c ∈ rest.head?, isBareKey c = false) : keyPart? (key.toList ++ rest) = some (key, rest) := by
  have taken : (key.toList ++ rest).takeWhile isBareKey = key.toList := by
    rw [List.takeWhile_append_of_pos (List.all_eq_true.mp bare.plain)]
    cases rest with
    | nil => simp
    | cons d rest => simp [stops d rfl]
  have dropped : (key.toList ++ rest).dropWhile isBareKey = rest := by
    rw [List.dropWhile_append_of_pos (List.all_eq_true.mp bare.plain)]
    cases rest with
    | nil => rfl
    | cons d rest => simp [stops d rfl]
  unfold keyPart?
  split
  · rename_i same
    exact absurd same (bare.append_ne_cons (by decide) _ _)
  · rename_i same
    exact absurd same (bare.append_ne_cons (by decide) _ _)
  · have some : key.toList.isEmpty = false := by simpa using bare.nonempty
    simp [taken, dropped, some]

theorem key?_bare {key : String} (bare : IsBare key) (rest : List Char) (fuel : Nat) :
    key? (fuel + 1) (key.toList ++ ' ' :: '=' :: rest) = some ([key], '=' :: rest) := by
  obtain ⟨c, cs, text, plain, ends⟩ := bare.exists_cons
  have start : (key.toList ++ ' ' :: '=' :: rest).dropWhile isBlank = key.toList ++ ' ' :: '=' :: rest := by
    rw [text, List.cons_append, List.dropWhile_cons_of_neg (by simp [not_isBlank_of_endsGap ends])]
  have stops : ∀ c ∈ (' ' :: '=' :: rest).head?, isBareKey c = false := by
    simp only [List.head?_cons, Option.mem_some_iff, forall_eq']
    decide
  have part := keyPart?_bare bare stops
  have stop : (' ' :: '=' :: rest).dropWhile isBlank = '=' :: rest := by
    rw [List.dropWhile_cons_of_pos (by decide), List.dropWhile_cons_of_neg (by decide)]
  rw [key?, start, part]
  simp only [Option.bind_eq_bind, Option.bind_some, stop]
  rfl

def table (key : String) (text : List Char) : List Char := '\x7b' :: ' ' :: (assignment key text ++ [' ', '\x7d'])

theorem Writes.dropWhile_isBlank {depth : Nat} {text : List Char} {v : Value} (writes : Writes depth text v)
    (rest : List Char) : (' ' :: (text ++ rest)).dropWhile isBlank = text ++ rest := by
  obtain ⟨c, inner, written, ends, -⟩ := writes.exists_cons
  rw [written, List.cons_append, List.dropWhile_cons_of_pos (by decide),
    List.dropWhile_cons_of_neg (by simp [not_isBlank_of_endsGap ends])]

theorem writes_table {depth : Nat} {key : String} (bare : IsBare key) {text : List Char} {v : Value}
    (writes : Writes depth text v) : Writes (depth + 1) (table key text) (.table [(key, v)]) := by
  refine ⟨⟨'\x7b', _, rfl, .inr (.inr rfl)⟩, ?_⟩
  intro fuel rest enough _
  simp only [table, assignment, List.length_cons, List.length_append, List.length_nil] at enough
  obtain ⟨fuel, rfl⟩ : ∃ n, fuel = n + 2 := ⟨fuel - 2, by omega⟩
  obtain ⟨c, cs, letters, -, ends⟩ := bare.exists_cons
  have whole : table key text ++ rest =
      '\x7b' :: ' ' :: (key.toList ++ ' ' :: '=' :: ' ' :: (text ++ ' ' :: '\x7d' :: rest)) := by
    simp [table, assignment]
  have read := writes.reads fuel (' ' :: '\x7d' :: rest) (by omega) (by simp)
  have start := gap?_blank_cons ends (cs ++ ' ' :: '=' :: ' ' :: (text ++ ' ' :: '\x7d' :: rest))
  rw [← List.cons_append, ← letters] at start
  rw [whole, value?, if_neg (by omega)]
  simp only [Nat.add_sub_cancel]
  rw [fields?, start]
  simp only [Option.bind_eq_bind, Option.bind_some]
  split
  · rename_i same
    exact absurd same (bare.append_ne_cons (by decide) _ _)
  · rw [key?_bare bare]
    simp only [Option.bind_some, writes.dropWhile_isBlank, read]
    rw [gap?_blank_cons (by decide)]
    rfl

structure Line where
  key : String
  text : List Char
  value : Value
  bare : IsBare key
  writes : Writes depthLimit text value

def Line.written (l : Line) : List Char := assignment l.key l.text ++ ['\n']

def document (ls : List Line) : List Char := ls.flatMap Line.written

theorem lineEnd?_newline (rest : List Char) : lineEnd? ('\n' :: rest) = some rest := by
  unfold lineEnd?
  rw [List.dropWhile_cons_of_neg (by decide)]
  rfl

theorem lines?_line (l : Line) (path : List String) (fields : Fields) (rest : List Char) (fuel : Nat) :
    lines? (fuel + 1) path fields (l.written ++ rest) =
      (fields.assignAt? path [l.key] l.value).bind fun fields => lines? fuel path fields rest := by
  have whole : l.written ++ rest = l.key.toList ++ ' ' :: '=' :: ' ' :: (l.text ++ '\n' :: rest) := by
    simp [Line.written, assignment]
  have start := l.bare.gap?_append (' ' :: '=' :: ' ' :: (l.text ++ '\n' :: rest))
  have read := l.writes.reads ((' ' :: (l.text ++ '\n' :: rest)).length + 1) ('\n' :: rest)
    (by simp only [List.length_cons, List.length_append]; omega) (by simp)
  rw [whole, lines?, start]
  simp only [Option.bind_eq_bind, Option.bind_some]
  split
  · rename_i same
    simp at same
  · rename_i same
    exact absurd same (l.bare.append_ne_cons (by decide) _ _)
  · rename_i same
    exact absurd same (l.bare.append_ne_cons (by decide) _ _)
  · rw [key?_bare l.bare]
    simp only [Option.bind_some, l.writes.dropWhile_isBlank, read, lineEnd?_newline]

theorem lines?_document (ls : List Line) {known : Fields}
    (distinct : (known.map Prod.fst ++ ls.map Line.key).Nodup) {fuel : Nat} (enough : ls.length < fuel) :
    lines? fuel [] known (document ls) = some (known ++ ls.map fun l => (l.key, .value l.value)) := by
  induction ls generalizing known fuel with
  | nil =>
    obtain ⟨fuel, rfl⟩ : ∃ n, fuel = n + 1 := ⟨fuel - 1, by omega⟩
    simp [document, lines?, gap?]
  | cons l ls ih =>
    obtain ⟨fuel, rfl⟩ : ∃ n, fuel = n + 1 := ⟨fuel - 1, by omega⟩
    have new : known.find? l.key = none := by
      apply List.lookup_eq_none_iff.mpr
      intro field member
      have apart := (List.nodup_append.mp distinct).2.2 field.1 (List.mem_map_of_mem member) l.key (by simp)
      exact bne_iff_ne.mpr apart.symm
    have put : known.assignAt? [] [l.key] l.value = some (known ++ [(l.key, .value l.value)]) := by
      simp [Fields.assignAt?, Fields.assign?, new]
    have distinct' : ((known ++ [(l.key, Node.value l.value)]).map Prod.fst ++ ls.map Line.key).Nodup := by
      simpa using distinct
    have others := ih distinct' (by simpa using enough)
    rw [document, List.flatMap_cons, lines?_line, put, Option.bind_some, ← document, others]
    simp

theorem fieldValues_values (fields : List (String × Value)) :
    fieldValues (fields.map fun f => (f.1, .value f.2)) = fields := by
  induction fields with
  | nil => rfl
  | cons f fields ih => rw [List.map_cons, fieldValues, ih, Node.toValue]

theorem parse?_document {ls : List Line} (distinct : (ls.map Line.key).Nodup)
    {sorted : List (String × Value)} (table : Value.tableOf (ls.map fun l => (l.key, l.value)) = .table sorted) :
    parse? (String.ofList (document ls)) = some sorted := by
  have noMark : ∀ s, (String.ofList (document ls)).toList ≠ '\ufeff' :: s := by
    intro s same
    cases ls with
    | nil => simp [document] at same
    | cons l ls =>
      simp only [document, List.flatMap_cons, Line.written, assignment, String.toList_ofList, List.append_assoc] at same
      exact l.bare.append_ne_cons (by decide) _ _ same
  have something (l : Line) : l.written ≠ [] := by simp [Line.written]
  have enough : ls.length < (document ls).length + 1 := Nat.lt_succ_of_le (length_le_flatMap something ls)
  have distinct' : (([] : Fields).map Prod.fst ++ ls.map Line.key).Nodup := by simpa using distinct
  have read := lines?_document ls distinct' enough
  have values := fieldValues_values (ls.map fun l => (l.key, l.value))
  simp only [List.map_map, Function.comp_def] at values
  unfold parse?
  split
  · rename_i same
    exact absurd same (noMark _)
  · simp only [String.toList_ofList, read, List.nil_append, values, table]

end DeclBundle.Toml
