import DeclBundle.Proofs.Filter.Default

namespace DeclBundle

namespace Glob

def Token.Separates : Token → Prop
  | .literal c => c = '/'
  | .trailing => True
  | .between => True
  | _ => False

def outermost (tokens : List Token) : List Open → List Token
  | [] => tokens
  | brace :: opened => outermost brace.before opened

def Starts (tokens : List Token) : Prop := ∃ t, tokens.getLast? = some t ∧ t.Separates

theorem Starts.cons {tokens : List Token} (starts : Starts tokens) (t : Token) : Starts (t :: tokens) := by
  obtain ⟨first, last, separates⟩ := starts
  exact ⟨first, by rw [List.getLast?_cons, last]; rfl, separates⟩

theorem Starts.push {tokens : List Token} {opened : List Open} (starts : Starts (outermost tokens opened))
    (t : Token) : Starts (outermost (t :: tokens) opened) := by
  cases opened with
  | nil => exact starts.cons t
  | cons brace opened => exact starts

theorem Starts.replace {t : Token} {earlier : List Token} (starts : Starts (t :: earlier)) {token : Token}
    (separates : token.Separates) : Starts (token :: earlier) := by
  cases earlier with
  | nil => exact ⟨token, rfl, separates⟩
  | cons next earlier =>
    obtain ⟨first, last, own⟩ := starts
    exact ⟨first, by simpa using last, own⟩

theorem starts_doubleStar {tokens : List Token} (starts : Starts tokens) (previous : Option Char)
    (inside : Bool) (s : List Char) : Starts (doubleStar tokens previous inside s).1 := by
  have plain : Starts (.star :: .star :: tokens) := (starts.cons _).cons _
  cases tokens with
  | nil =>
    obtain ⟨t, none, -⟩ := starts
    cases none
  | cons t earlier =>
    have between : Starts (.between :: earlier) := starts.replace trivial
    have trailing : Starts (.trailing :: earlier) := starts.replace trivial
    unfold doubleStar
    dsimp only
    split
    · exact plain
    · split
      · cases t <;> first | exact starts | exact trailing
      · cases t <;> first | exact starts | exact between
      · split
        · cases t <;> first | exact starts | exact trailing
        · exact plain

theorem starts_outermost_doubleStar {tokens : List Token} {opened : List Open}
    (starts : Starts (outermost tokens opened)) (previous : Option Char) (inside : Bool) (s : List Char) :
    Starts (outermost (doubleStar tokens previous inside s).1 opened) := by
  cases opened with
  | nil => exact starts_doubleStar starts previous inside s
  | cons brace opened => exact starts

/-- Reading on never takes away that the outermost tokens start with a separator. -/
theorem separates_parseFrom {previous : Option Char} {tokens : List Token} {opened : List Open}
    {s : List Char} (starts : Starts (outermost tokens opened)) {result : List Token}
    (read : parseFrom previous tokens opened s = some result) :
    ∃ t rest, result = t :: rest ∧ t.Separates := by
  fun_induction parseFrom previous tokens opened s with
  | case1 _ tokens opened closed =>
    obtain rfl := List.isEmpty_iff.mp closed
    obtain ⟨t, last, separates⟩ := starts
    obtain ⟨rest, rfl⟩ := List.getLast?_eq_some_iff.mp last
    exact ⟨t, rest.reverse, by rw [← Option.some.inj read, List.reverse_concat], separates⟩
  | case2 | case6 | case9 => cases read
  | case3 _ _ _ _ ih | case5 _ _ _ _ _ ih | case7 _ _ _ _ _ _ _ _ ih => exact ih (starts.push _) read
  | case4 _ _ _ _ _ _ ih =>
    refine ih (starts_outermost_doubleStar starts _ _ _) ?_
    simpa only [dite_eq_ite] using read
  | case8 _ _ _ _ ih => exact ih starts read
  | case10 _ _ _ brace outer ih =>
    have onward : Starts (outermost brace.before outer) := starts
    exact ih (onward.push _) (by simpa using read)
  | case11 _ _ _ ih => exact ih (starts.push _) read
  | case12 _ _ _ brace outer ih => exact ih starts (by simpa using read)
  | case13 _ _ _ _ _ _ _ _ _ _ _ _ ih => exact ih (starts.push _) read

theorem rooted_of_isMatch {t : Token} (separates : t.Separates) {tokens : List Token} {path : List Char}
    (matched : isMatch (t :: tokens) path) : path.head? = some '/' := by
  have first : ∃ back, Text.utf8 path = slash :: back := by
    have read : accepts (t :: tokens) List.isEmpty (Text.utf8 path) := by
      unfold isMatch at matched
      split at matched
      · rename_i same
        obtain ⟨rfl, rfl⟩ := List.cons.inj same
        exact separates.elim
      · exact (Bool.and_eq_true_iff.mp matched).2
    unfold accepts at read
    cases t with
    | literal c =>
      obtain rfl : c = '/' := separates
      obtain ⟨back, whole, -⟩ := acceptsToken_literal.mp read
      exact ⟨back, whole⟩
    | trailing | between =>
      unfold acceptsToken at read
      split at read
      · rename_i b back whole
        obtain ⟨same, -⟩ := Bool.and_eq_true_iff.mp read
        exact ⟨back, by rw [whole, beq_iff_eq.mp same]⟩
      · cases read
    | _ => exact separates.elim
  obtain ⟨back, whole⟩ := first
  have cut : Text.utf8 path = [] ++ Text.byteOf '/' :: back := whole
  obtain ⟨left, right, rfl, none, -⟩ := Text.exists_cut (by decide) cut
  rw [Text.utf8_eq_nil.mp none]
  rfl

theorem rooted_of_parse? {pattern : List Char} (first : pattern.head? = some '/') {tokens : List Token}
    (read : parse? pattern = some tokens) {path : List Char} (matched : isMatch tokens path) :
    path.head? = some '/' := by
  obtain ⟨s, rfl⟩ := List.head?_eq_some_iff.mp first
  unfold parse? at read
  have onward : parseFrom (some '/') [.literal '/'] [] s = some tokens := by
    rw [← read, parseFrom] <;> simp
  have starts : Starts (outermost [.literal '/'] []) := ⟨.literal '/', rfl, rfl⟩
  obtain ⟨t, rest, rfl, separates⟩ := separates_parseFrom starts onward
  exact rooted_of_isMatch separates matched

def Anywhere (glob : String) : Prop := "**".toList <+: glob.toList

def Matches (root : Path) (glob : String) (path : List Char) : Prop :=
  ∃ tokens, parse? (anchorGlob root glob.toList) = some tokens ∧ isMatch tokens path

end Glob

open ModuleId (normalizeSlashes)
open Glob (Anywhere Matches)

theorem head?_anchorGlob {root : Path} (rooted : root.isRooted) {glob : String}
    (anchored : ¬Anywhere glob) : (anchorGlob root glob.toList).head? = some '/' := by
  have plain : ¬"**".toList.isPrefixOf (normalizeSlashes glob.toList) := by
    intro found
    obtain ⟨own, part, same⟩ := List.prefix_map_iff.mp (List.isPrefixOf_iff_prefix.mp found)
    change "**".toList = normalizeSlashes own at same
    have clean : '/' ∉ normalizeSlashes own := by
      rw [← same]
      decide
    rw [ModuleId.normalizeSlashes_of_clean clean] at same
    rw [← same] at part
    exact anchored part
  obtain ⟨rest, text⟩ := List.head?_eq_some_iff.mp (of_decide_eq_true rooted)
  unfold anchorGlob
  dsimp only
  split
  · rename_i absolute
    rcases Bool.or_eq_true_iff.mp absolute with found | slash
    · exact absurd found plain
    · exact of_decide_eq_true slash
  · -- Even of the root's own slashes, one is left or written again.
    have top : normalizeSlashes root.text.toList = '/' :: normalizeSlashes rest := by
      rw [text]
      rfl
    generalize normalizeSlashes root.text.toList = written at top
    subst top
    rw [List.reverse_cons]
    cases kept : (normalizeSlashes rest).reverse.dropWhile (· = '/') with
    | nil =>
      rw [List.dropWhile_append_of_pos (by simpa using List.dropWhile_eq_nil_iff.mp kept)]
      rfl
    | cons c inner =>
      rw [List.dropWhile_append, kept]
      simp [Glob.escape]

theorem Glob.Matches.anywhere {root : Path} (rooted : root.isRooted) {glob : String} {path : List Char}
    (matched : Matches root glob path) (relative : path.head? ≠ some '/') : Anywhere glob := by
  obtain ⟨tokens, read, found⟩ := matched
  by_contra anchored
  exact relative (Glob.rooted_of_parse? (head?_anchorGlob rooted anchored) read found)

namespace Matchers

theorem map_some_globs {root : Path} {globs : List String} {m m' : Matchers}
    (built : (globs.map FilterPattern.glob).foldlM (add root) m = .ok m') :
    m'.regexes = m.regexes ∧ m'.globs.map some =
      m.globs.map some ++ globs.map fun glob => Glob.parse? (anchorGlob root glob.toList) := by
  induction globs generalizing m with
  | nil =>
    cases built
    simp
  | cons glob globs ih =>
    rw [List.map_cons, List.foldlM_cons] at built
    cases read : Glob.parse? (anchorGlob root glob.toList) with
    | none =>
      simp only [add, read] at built
      cases built
    | some tokens =>
      simp only [add, read] at built
      obtain ⟨regexes, whole⟩ := ih built
      exact ⟨regexes, by simp [whole, read]⟩

variable {root : Path} {spec : FilterSpec} {globs : List String} (written : spec.patterns = globs.map .glob)
  {m : Matchers} (built : ofSpec root spec = .ok m)

include written built

theorem accepts_iff_of_globs (path id : List Char) :
    m.accepts path id ↔ ∃ glob ∈ globs, Matches root glob path := by
  unfold ofSpec at built
  rw [written] at built
  obtain ⟨regexes, whole⟩ := map_some_globs built
  have member (tokens : List Glob.Token) : tokens ∈ m.globs ↔
      ∃ glob ∈ globs, Glob.parse? (anchorGlob root glob.toList) = some tokens := by
    rw [← List.mem_map_of_injective (Option.some_injective _), whole]
    simp
  simp only [accepts, regexes, List.any_nil, Bool.or_false, List.any_eq_true, member, Matches]
  constructor
  · intro found
    obtain ⟨tokens, ⟨glob, inside, read⟩, matched⟩ := found
    exact ⟨glob, inside, tokens, read, matched⟩
  · intro found
    obtain ⟨glob, inside, tokens, read, matched⟩ := found
    exact ⟨tokens, ⟨glob, inside, read⟩, matched⟩

theorem isEmpty_iff_of_globs : m.isEmpty ↔ globs = [] := by
  unfold ofSpec at built
  rw [written] at built
  obtain ⟨regexes, whole⟩ := map_some_globs built
  have lengths := congrArg List.length whole
  simp only [List.map_nil, List.nil_append, List.length_map] at lengths
  simp only [isEmpty, regexes, List.isEmpty_nil, Bool.and_true, List.isEmpty_iff,
    ← List.length_eq_zero_iff, lengths]

end Matchers

namespace PathFilter

/-- What some globs let pass, when it is known which of them match. -/
def Passes (included excluded : List String) (matched : String → Prop) : Prop :=
  (∀ glob ∈ excluded, ¬matched glob) ∧ (included = [] ∨ ∃ glob ∈ included, matched glob)

variable {root : Path} {includes excludes : FilterSpec} {included excluded : List String}
  (inside : includes.patterns = included.map .glob) (outside : excludes.patterns = excluded.map .glob)
  {f : PathFilter} (built : ofSpecs includes excludes root = .ok f)

include inside outside built

theorem accepts_iff_of_globs (id : String) : f.accepts id ↔ '\x00' ∉ id.toList ∧
    Passes included excluded fun glob => Matches root glob (ModuleId.file id).text.toList := by
  obtain ⟨includesBuilt, excludesBuilt⟩ := ofSpec_of_ofSpecs built
  unfold Passes
  rw [accepts_iff, Matchers.isEmpty_iff_of_globs inside includesBuilt,
    Matchers.accepts_iff_of_globs inside includesBuilt, Matchers.accepts_iff_of_globs outside excludesBuilt]
  simp only [not_exists, not_and]

theorem accepts_relative_iff (rooted : root.isRooted) {id : String}
    (relative : ¬(ModuleId.file id).isRooted) : f.accepts id ↔ '\x00' ∉ id.toList ∧
      Passes included excluded fun glob =>
        Anywhere glob ∧ Matches root glob (ModuleId.file id).text.toList := by
  have anywhere (glob : String) : Matches root glob (ModuleId.file id).text.toList =
      (Anywhere glob ∧ Matches root glob (ModuleId.file id).text.toList) := by
    refine propext ⟨fun matched => ⟨?_, matched⟩, And.right⟩
    exact matched.anywhere rooted (by simpa [Path.isRooted] using relative)
  rw [accepts_iff_of_globs inside outside built, ← funext anywhere]

end PathFilter

end DeclBundle
