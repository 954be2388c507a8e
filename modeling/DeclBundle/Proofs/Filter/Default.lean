import DeclBundle.Filter.Basic
import DeclBundle.Proofs.Module.Identifier
import DeclBundle.Proofs.Text.Utf8
import Mathlib

namespace DeclBundle

namespace Glob

theorem skipName_iff {rest : List UInt8 → Bool} {s : List UInt8} :
    skipName rest s ↔ ∃ front back, s = front ++ back ∧ slash ∉ front ∧ rest back := by
  induction s with
  | nil => simp [skipName]
  | cons b s ih =>
    simp only [skipName, Bool.or_eq_true, Bool.and_eq_true, bne_iff_ne, ne_eq, ih]
    constructor
    · intro found
      rcases found with now | ⟨other, front, back, rfl, clean, later⟩
      · exact ⟨[], b :: s, rfl, List.not_mem_nil, now⟩
      · exact ⟨b :: front, back, rfl, List.not_mem_cons_of_ne_of_not_mem (Ne.symm other) clean, later⟩
    · intro found
      obtain ⟨front, back, whole, clean, later⟩ := found
      cases front with
      | nil => exact .inl (whole ▸ later)
      | cons c front =>
        obtain ⟨rfl, rfl⟩ := List.cons.inj whole
        exact .inr ⟨Ne.symm (List.ne_of_not_mem_cons clean), front, back, rfl,
          List.not_mem_of_not_mem_cons clean, later⟩

theorem skipAny_iff {rest : List UInt8 → Bool} {s : List UInt8} :
    skipAny rest s ↔ ∃ front back, s = front ++ back ∧ rest back := by
  induction s with
  | nil => simp [skipAny]
  | cons b s ih =>
    simp only [skipAny, Bool.or_eq_true, ih]
    constructor
    · intro found
      rcases found with now | ⟨front, back, rfl, later⟩
      · exact ⟨[], b :: s, rfl, now⟩
      · exact ⟨b :: front, back, rfl, later⟩
    · intro found
      obtain ⟨front, back, whole, later⟩ := found
      cases front with
      | nil => exact .inl (whole ▸ later)
      | cons c front =>
        obtain ⟨rfl, rfl⟩ := List.cons.inj whole
        exact .inr ⟨front, back, rfl, later⟩

theorem skipDirectories_iff {rest : List UInt8 → Bool} {s : List UInt8} :
    skipDirectories rest s ↔ ∃ front back, s = front ++ slash :: back ∧ rest back := by
  induction s with
  | nil => simp [skipDirectories]
  | cons b s ih =>
    simp only [skipDirectories, Bool.or_eq_true, Bool.and_eq_true, beq_iff_eq, ih]
    constructor
    · intro found
      rcases found with ⟨rfl, now⟩ | ⟨front, back, rfl, later⟩
      · exact ⟨[], s, rfl, now⟩
      · exact ⟨b :: front, back, rfl, later⟩
    · intro found
      obtain ⟨front, back, whole, later⟩ := found
      cases front with
      | nil =>
        obtain ⟨rfl, rfl⟩ := List.cons.inj whole
        exact .inl ⟨rfl, later⟩
      | cons c front =>
        obtain ⟨rfl, rfl⟩ := List.cons.inj whole
        exact .inr ⟨front, back, rfl, later⟩

theorem acceptsToken_literal {c : Char} {rest : List UInt8 → Bool} {s : List UInt8} :
    acceptsToken (.literal c) rest s ↔ ∃ back, s = String.utf8EncodeChar c ++ back ∧ rest back := by
  unfold acceptsToken
  split
  · rename_i back found
    obtain rfl := List.isPrefixOf?_eq_some_iff_append_eq.mp found
    simp
  · rename_i none
    simp only [Bool.false_eq_true, false_iff]
    intro read
    obtain ⟨back, whole, -⟩ := read
    rw [List.isPrefixOf?_eq_some_iff_append_eq.mpr whole.symm] at none
    cases none

theorem accepts_map {write : Char → Token} (exact : ∀ c rest s, acceptsToken (write c) rest s ↔
      ∃ back, s = String.utf8EncodeChar c ++ back ∧ rest back)
    (text : List Char) (tokens : List Token) (rest : List UInt8 → Bool) (s : List UInt8) :
    accepts (text.map write ++ tokens) rest s ↔
      ∃ back, s = Text.utf8 text ++ back ∧ accepts tokens rest back := by
  induction text generalizing s with
  | nil => simp [Text.utf8]
  | cons c text ih =>
    simp only [List.map_cons, List.cons_append, accepts, exact, ih, Text.utf8_cons, List.append_assoc]
    constructor
    · intro read
      obtain ⟨_, rfl, back, rfl, last⟩ := read
      exact ⟨back, rfl, last⟩
    · intro read
      obtain ⟨back, rfl, last⟩ := read
      exact ⟨_, rfl, back, rfl, last⟩

theorem accepts_literals (literals : List Char) (tokens : List Token) (rest : List UInt8 → Bool)
    (s : List UInt8) : accepts (literals.map .literal ++ tokens) rest s ↔
      ∃ back, s = Text.utf8 literals ++ back ∧ accepts tokens rest back :=
  accepts_map (fun _ _ _ => acceptsToken_literal) literals tokens rest s

theorem accepts_text (text : List Char) (s : List UInt8) :
    accepts (text.map .literal) List.isEmpty s ↔ s = Text.utf8 text := by
  have read := accepts_literals text [] List.isEmpty s
  rw [List.append_nil] at read
  simpa [accepts] using read

theorem accepts_leading {tokens : List Token} {rest : List UInt8 → Bool} {s : List UInt8} :
    accepts (.leading :: tokens) rest s ↔
      accepts tokens rest s ∨ ∃ front back, s = front ++ slash :: back ∧ accepts tokens rest back := by
  simp only [accepts, acceptsToken, Bool.or_eq_true, skipDirectories_iff]

theorem exists_last_name (s : List UInt8) :
    slash ∉ s ∨ ∃ front name, s = front ++ slash :: name ∧ slash ∉ name := by
  by_cases member : slash ∈ s
  · obtain ⟨name, front, split, clean⟩ := List.eq_append_cons_of_mem (List.mem_reverse.mpr member)
    refine .inr ⟨front.reverse, name.reverse, ?_, by simpa using clean⟩
    have whole := congrArg List.reverse split
    simpa using whole
  · exact .inl member

theorem accepts_ending (ending : List Char) (s : List UInt8) :
    accepts (.leading :: .star :: ending.map .literal) List.isEmpty s ↔ Text.utf8 ending <:+ s := by
  have name (s : List UInt8) : accepts (.star :: ending.map .literal) List.isEmpty s ↔
      ∃ front, s = front ++ Text.utf8 ending ∧ slash ∉ front := by
    simp only [accepts, acceptsToken, skipName_iff, accepts_text]
    constructor
    · intro found
      obtain ⟨front, _, whole, clean, rfl⟩ := found
      exact ⟨front, whole, clean⟩
    · intro found
      obtain ⟨front, whole, clean⟩ := found
      exact ⟨front, _, whole, clean, rfl⟩
  rw [accepts_leading]
  simp only [name]
  constructor
  · intro found
    rcases found with ⟨front, rfl, -⟩ | ⟨front, _, rfl, inner, rfl, -⟩
    · exact ⟨front, rfl⟩
    · exact ⟨front ++ slash :: inner, by simp⟩
  · intro suffix
    obtain ⟨front, rfl⟩ := suffix
    rcases exists_last_name front with clean | ⟨above, inner, rfl, clean⟩
    · exact .inl ⟨front, rfl, clean⟩
    · exact .inr ⟨above, inner ++ Text.utf8 ending, by simp, inner, rfl, clean⟩

theorem accepts_below (name : List Char) (s : List UInt8) :
    accepts (.leading :: (name.map .literal ++ [.trailing])) List.isEmpty s ↔
      slash :: (Text.utf8 name ++ [slash]) <:+: slash :: s := by
  have inside (s : List UInt8) : accepts (name.map .literal ++ [.trailing]) List.isEmpty s ↔
      Text.utf8 name ++ [slash] <+: s := by
    rw [accepts_literals]
    constructor
    · intro found
      obtain ⟨back, rfl, last⟩ := found
      cases back with
      | nil => simp [accepts, acceptsToken] at last
      | cons b back =>
        simp only [accepts, acceptsToken, Bool.and_eq_true, beq_iff_eq] at last
        exact ⟨back, by simp [last.1]⟩
    · intro found
      obtain ⟨back, rfl⟩ := found
      refine ⟨slash :: back, by simp, ?_⟩
      simp only [accepts, acceptsToken, beq_self_eq_true, Bool.true_and, skipAny_iff]
      exact ⟨back, [], by simp, rfl⟩
  rw [accepts_leading]
  simp only [inside]
  constructor
  · intro found
    rcases found with ⟨back, rfl⟩ | ⟨front, _, rfl, back, rfl⟩
    · exact ⟨[], back, by simp⟩
    · exact ⟨slash :: front, back, by simp⟩
  · intro found
    obtain ⟨front, back, whole⟩ := found
    cases front with
    | nil =>
      rw [List.nil_append, List.cons_append, List.cons.injEq] at whole
      exact .inl ⟨back, whole.2⟩
    | cons b front =>
      simp only [List.cons_append, List.cons.injEq, List.append_assoc] at whole
      exact .inr ⟨front, Text.utf8 name ++ slash :: back, whole.2.symm, back, by simp⟩

theorem isMatch_ending {c : Char} {ending : List Char} (ascii : ∀ d ∈ c :: ending, Text.IsAscii d)
    (whole : seesName (.leading :: .star :: (c :: ending).map .literal) = false) (path : List Char) :
    isMatch (.leading :: .star :: (c :: ending).map .literal) path ↔ c :: ending <:+ path := by
  rw [← Text.suffix_utf8_iff ascii, ← accepts_ending]
  unfold isMatch
  simp only [whole, Bool.false_and, Bool.not_false, Bool.true_and]

theorem isMatch_below {c : Char} {name : List Char} (ascii : ∀ d ∈ c :: name, Text.IsAscii d)
    (whole : seesName (.leading :: ((c :: name).map .literal ++ [.trailing])) = false)
    (path : List Char) :
    isMatch (.leading :: ((c :: name).map .literal ++ [.trailing])) path ↔
      '/' :: (c :: name ++ ['/']) <:+: '/' :: path := by
  have separator : Text.IsAscii '/' := by decide
  have all : ∀ d ∈ '/' :: (c :: name ++ ['/']), Text.IsAscii d := by
    intro d member
    rcases List.mem_cons.mp member with rfl | member
    · exact separator
    · rcases List.mem_append.mp member with member | member
      · exact ascii d member
      · rw [List.mem_singleton.mp member]
        exact separator
  have byte : Text.byteOf '/' = slash := rfl
  rw [← Text.infix_utf8_iff all, Text.utf8_cons_ascii separator, Text.utf8_cons_ascii separator,
    Text.utf8_append, byte, show Text.utf8 ['/'] = [slash] from rfl, ← accepts_below]
  have opened : isMatch (.leading :: ((c :: name).map .literal ++ [.trailing])) path =
      (!(seesName (.leading :: ((c :: name).map .literal ++ [.trailing])) && endsInStepUp path) &&
        accepts (.leading :: ((c :: name).map .literal ++ [.trailing])) List.isEmpty (Text.utf8 path)) :=
    rfl
  rw [opened, whole, Bool.false_and, Bool.not_false, Bool.true_and]

end Glob

namespace Matchers

def includedEndings : List String := [".vue", ".ts", ".tsx"]

theorem ofSpec_defaultInclude (root : Path) : ofSpec root .defaultInclude =
    .ok ⟨includedEndings.map fun ending => .leading :: .star :: ending.toList.map .literal, []⟩ := by
  cbv

theorem ofSpec_defaultExclude (root : Path) : ofSpec root .defaultExclude =
    .ok ⟨[.leading :: ("node_modules".toList.map .literal ++ [.trailing])], []⟩ := by
  cbv

theorem accepts_defaultInclude {root : Path} {m : Matchers} (built : ofSpec root .defaultInclude = .ok m)
    (path id : List Char) : m.accepts path id ↔ ∃ ending ∈ includedEndings, ending.toList <:+ path := by
  rw [ofSpec_defaultInclude] at built
  cases built
  have matched (ending : String) (known : ending ∈ includedEndings) :
      Glob.isMatch (.leading :: .star :: ending.toList.map .literal) path ↔ ending.toList <:+ path := by
    simp only [includedEndings, List.mem_cons, List.not_mem_nil, or_false] at known
    rcases known with rfl | rfl | rfl
    all_goals exact Glob.isMatch_ending (Text.isAscii_of_all rfl) (by decide) path
  simp only [accepts, List.any_map, List.any_nil, Bool.or_false, List.any_eq_true, Function.comp_apply]
  constructor
  · intro found
    obtain ⟨ending, known, same⟩ := found
    exact ⟨ending, known, (matched ending known).mp same⟩
  · intro found
    obtain ⟨ending, known, suffix⟩ := found
    exact ⟨ending, known, (matched ending known).mpr suffix⟩

theorem accepts_defaultExclude {root : Path} {m : Matchers} (built : ofSpec root .defaultExclude = .ok m)
    (path id : List Char) : m.accepts path id ↔ "/node_modules/".toList <:+: '/' :: path := by
  rw [ofSpec_defaultExclude] at built
  cases built
  simp only [accepts, List.any_cons, List.any_nil, Bool.or_false]
  exact Glob.isMatch_below (Text.isAscii_of_all rfl) (by decide) path

end Matchers

namespace PathFilter

theorem ofSpec_of_ofSpecs {f : PathFilter} {includes excludes : FilterSpec} {root : Path}
    (built : ofSpecs includes excludes root = .ok f) :
    Matchers.ofSpec root includes = .ok f.includes ∧ Matchers.ofSpec root excludes = .ok f.excludes := by
  unfold ofSpecs at built
  cases included : Matchers.ofSpec root includes with
  | error e =>
    rw [included] at built
    cases built
  | ok _ =>
    cases excluded : Matchers.ofSpec root excludes with
    | error e =>
      rw [included, excluded] at built
      cases built
    | ok _ =>
      rw [included, excluded] at built
      cases built
      exact ⟨rfl, rfl⟩

theorem ofSpecs_of_ofSpec {includes excludes : FilterSpec} {root : Path} {m m' : Matchers}
    (included : Matchers.ofSpec root includes = .ok m) (excluded : Matchers.ofSpec root excludes = .ok m') :
    ofSpecs includes excludes root = .ok ⟨m, m'⟩ := by
  unfold ofSpecs
  rw [included, excluded]
  rfl

theorem accepts_iff (f : PathFilter) (id : String) : f.accepts id ↔ '\x00' ∉ id.toList ∧
    ¬f.excludes.accepts (ModuleId.file id).text.toList (ModuleId.normalizeSlashes id.toList) ∧
      (f.includes.isEmpty ∨
        f.includes.accepts (ModuleId.file id).text.toList (ModuleId.normalizeSlashes id.toList)) := by
  have virtual : id.toList.contains '\x00' ↔ '\x00' ∈ id.toList := by simp
  rw [← virtual, ← Bool.or_eq_true]
  unfold accepts judge ModuleId.file
  rw [String.toList_ofList]
  dsimp only
  split
  · rename_i nul
    exact iff_of_false (by decide) fun all => all.1 nul
  · rename_i real
    split
    · rename_i refused
      exact iff_of_false (by decide) fun all => all.2.1 refused
    · rename_i kept
      split
      · rename_i shown
        exact iff_of_true (by decide) ⟨real, kept, shown⟩
      · rename_i hidden
        exact iff_of_false (by decide) fun all => hidden all.2.2

theorem accepts_default_iff {f : PathFilter} {root : Path}
    (built : ofSpecs .defaultInclude .defaultExclude root = .ok f) (id : String) :
    f.accepts id ↔ '\x00' ∉ id.toList ∧
      ¬"/node_modules/".toList <:+: '/' :: (ModuleId.file id).text.toList ∧
        ∃ ending ∈ Matchers.includedEndings, ending.toList <:+ (ModuleId.file id).text.toList := by
  obtain ⟨included, excluded⟩ := ofSpec_of_ofSpecs built
  have some : f.includes.isEmpty = false := by
    rw [Matchers.ofSpec_defaultInclude] at included
    rw [← Except.ok.inj included]
    rfl
  rw [accepts_iff, Matchers.accepts_defaultInclude included, Matchers.accepts_defaultExclude excluded, some]
  simp only [Bool.false_eq_true, false_or]

theorem file_append_query (id query : String) : ModuleId.file (id ++ "?" ++ query) = ModuleId.file id := by
  have cut : (id ++ "?" ++ query).toList = id.toList ++ '?' :: query.toList := by simp
  unfold ModuleId.file ModuleId.stripQuery ModuleId.normalizeSlashes Text.replaceChar
  rw [cut, List.map_append, List.map_cons, if_neg (by decide), Text.takeWhile_append_cons (by decide)]

/-- One filter is made of the default patterns, whatever the root. It accepts the identifiers of components and
of TypeScript sources that are not below a directory of installed packages; of what comes after a question mark
it only sees whether there is a null in it. -/
theorem exists_ofSpecs_default : ∃ f : PathFilter,
    (∀ root, ofSpecs .defaultInclude .defaultExclude root = .ok f) ∧
    (∀ id : String, f.accepts id ↔ '\x00' ∉ id.toList ∧
      (∃ ending ∈ [".vue", ".ts", ".tsx"], ending.toList <:+ (ModuleId.file id).text.toList) ∧
        ¬"/node_modules/".toList <:+: '/' :: (ModuleId.file id).text.toList) ∧
    ∀ id query : String,
      f.accepts (id ++ "?" ++ query) = (f.accepts id && !query.toList.contains '\x00') := by
  obtain ⟨f, built⟩ : ∃ f, ∀ root, ofSpecs .defaultInclude .defaultExclude root = .ok f :=
    ⟨_, fun root => ofSpecs_of_ofSpec (Matchers.ofSpec_defaultInclude root) (Matchers.ofSpec_defaultExclude root)⟩
  have exact (id : String) : f.accepts id ↔ '\x00' ∉ id.toList ∧
      (∃ ending ∈ [".vue", ".ts", ".tsx"], ending.toList <:+ (ModuleId.file id).text.toList) ∧
        ¬"/node_modules/".toList <:+: '/' :: (ModuleId.file id).text.toList := by
    rw [accepts_default_iff (built "") id, and_comm (b := ∃ _, _)]
    rfl
  refine ⟨f, built, exact, fun id query => ?_⟩
  have marks : '\x00' ∉ (id ++ "?" ++ query).toList ↔ '\x00' ∉ id.toList ∧ '\x00' ∉ query.toList := by
    simp
  rw [Bool.eq_iff_iff, Bool.and_eq_true, exact, exact, file_append_query, marks]
  simp only [Bool.not_eq_true', List.contains_eq_mem, decide_eq_false_iff_not]
  tauto

end PathFilter

end DeclBundle
