import DeclBundle.Proofs.Filter.Anchored
import DeclBundle.Proofs.Glob.Reading

namespace DeclBundle

namespace Glob

section Matching

theorem acceptsToken_verbatim (c : Char) (rest : List UInt8 → Bool) (s : List UInt8) :
    acceptsToken (verbatimToken c) rest s ↔ ∃ back, s = String.utf8EncodeChar c ++ back ∧ rest back := by
  unfold verbatimToken
  split
  · rename_i special
    have all : specials.all fun c => Text.IsAscii c := by decide
    have byte := Text.encode_ascii (Text.isAscii_of_all all c special)
    have same (b : UInt8) : hasByte false [(c, c)] b ↔ b = Text.byteOf c := by
      simp only [hasByte, byteRanges, byte, List.flatMap_cons, List.flatMap_nil, List.append_nil, if_true,
        List.map_cons, List.map_nil, List.any_cons, List.any_nil, Bool.or_false, Bool.bne_false,
        Bool.and_eq_true, decide_eq_true_eq]
      exact ⟨fun bounds => UInt8.le_antisymm bounds.2 bounds.1, fun same => same ▸ ⟨UInt8.le_refl _, UInt8.le_refl _⟩⟩
    rw [byte]
    cases s with
    | nil => simp [acceptsToken]
    | cons b s => simp [acceptsToken, same]
  · exact acceptsToken_literal

theorem accepts_verbatim (text : List Char) (tokens : List Token) (rest : List UInt8 → Bool) (s : List UInt8) :
    accepts (verbatim text ++ tokens) rest s ↔ ∃ back, s = Text.utf8 text ++ back ∧ accepts tokens rest back :=
  accepts_map acceptsToken_verbatim text tokens rest s

variable {tokens : List Token} (fresh : .leading ∉ tokens)

include fresh

theorem seesName_iff :
    seesName tokens ↔ tokens.getLast?.any Token.isDot ∧ ¬tokens.all Token.isLiteral := by
  unfold seesName
  split
  · exact absurd List.mem_cons_self fresh
  · simp

theorem isMatch_iff (path : List Char) : isMatch tokens path ↔
    ¬(seesName tokens ∧ endsInStepUp path) ∧ accepts tokens List.isEmpty (Text.utf8 path) := by
  unfold isMatch
  split
  · exact absurd List.mem_cons_self fresh
  · rw [Bool.and_eq_true, Bool.not_eq_true', ← Bool.not_eq_true, Bool.and_eq_true]

omit fresh in
theorem endsInStepUp_append (root x : List Char) : endsInStepUp (root ++ '/' :: x) = endsInStepUp x := by
  have turned : (root ++ '/' :: x).reverse = x.reverse ++ '/' :: root.reverse := by simp
  unfold endsInStepUp
  rw [turned, Text.takeWhile_append_cons (by decide)]

omit fresh in
theorem isLiteral_verbatimToken (c : Char) : (verbatimToken c).isLiteral ↔ c ∉ specials := by
  unfold verbatimToken
  split <;> simp_all [Token.isLiteral]

theorem leading_not_mem_verbatim (text : List Char) : .leading ∉ verbatim text ++ tokens := by
  intro member
  rcases List.mem_append.mp member with inFront | behind
  · obtain ⟨c, -, same⟩ := List.mem_map.mp inFront
    unfold verbatimToken at same
    split at same <;> cases same
  · exact fresh behind

theorem seesName_verbatim (root : List Char) : seesName (verbatim (root ++ ['/']) ++ tokens) ↔
    tokens.getLast?.any Token.isDot ∧ ¬((∀ c ∈ root, c ∉ specials) ∧ tokens.all Token.isLiteral) := by
  have separator : verbatimToken '/' = .literal '/' := rfl
  have literal : (verbatim (root ++ ['/']) ++ tokens).all Token.isLiteral ↔
      (∀ c ∈ root, c ∉ specials) ∧ tokens.all Token.isLiteral := by
    have plain : (Token.literal '/').isLiteral := rfl
    simp [verbatim, separator, isLiteral_verbatimToken, plain]
  have last : (verbatim (root ++ ['/']) ++ tokens).getLast?.any Token.isDot =
      tokens.getLast?.any Token.isDot := by
    cases tokens.eq_nil_or_concat with
    | inl none => simp [none, verbatim, separator, Token.isDot]
    | inr some =>
      obtain ⟨earlier, token, rfl⟩ := some
      simp
  rw [seesName_iff (leading_not_mem_verbatim fresh _), literal, last]

omit fresh in
theorem isDot_of_accepts {x : List Char} (literal : tokens.all Token.isLiteral)
    (matched : accepts tokens List.isEmpty (Text.utf8 x)) (up : endsInStepUp x) :
    tokens.getLast?.any Token.isDot := by
  have letter (token : Token) (member : token ∈ tokens) : ∃ c, Token.literal c = token := by
    have plain := List.all_eq_true.mp literal token member
    cases token with
    | literal c => exact ⟨c, rfl⟩
    | _ => cases plain
  obtain ⟨letters, rfl⟩ : tokens ∈ Set.range (List.map Token.literal) := by
    rw [Set.range_list_map]
    exact letter
  obtain rfl := Text.utf8_injective ((accepts_text letters _).mp matched)
  have ending : ['.', '.'] <+: x.reverse := of_decide_eq_true up ▸ List.takeWhile_prefix _
  obtain ⟨front, turned⟩ := ending
  have last : x.getLast? = some '.' := by
    rw [← List.head?_reverse, ← turned]
    rfl
  simp [List.getLast?_map, last, Token.isDot]

/-- A root that has to be escaped hides what is matched letter by letter and ends in a step up. -/
def Hides (root : List Char) (tokens : List Token) (x : List Char) : Prop :=
  (∃ c ∈ root, c ∈ specials) ∧ tokens.all Token.isLiteral ∧ endsInStepUp x

theorem isMatch_verbatim (root path : List Char) : isMatch (verbatim (root ++ ['/']) ++ tokens) path ↔
    ∃ x, path = root ++ '/' :: x ∧ isMatch tokens x ∧ ¬Hides root tokens x := by
  have below (x : List Char) (matched : accepts tokens List.isEmpty (Text.utf8 x)) :
      ¬(seesName (verbatim (root ++ ['/']) ++ tokens) ∧ endsInStepUp (root ++ '/' :: x)) ↔
        ¬(seesName tokens ∧ endsInStepUp x) ∧ ¬Hides root tokens x := by
    -- With a root that is escaped the whole is not literal any more, and it looks at the name if it ends in a dot.
    have special : (∃ c ∈ root, c ∈ specials) ↔ ¬∀ c ∈ root, c ∉ specials := by simp
    have dot (literal : tokens.all Token.isLiteral) (up : endsInStepUp x) :=
      isDot_of_accepts literal matched up
    rw [seesName_verbatim fresh, seesName_iff fresh, endsInStepUp_append]
    unfold Hides
    grind
  rw [isMatch_iff (leading_not_mem_verbatim fresh _), accepts_verbatim]
  constructor
  · intro found
    obtain ⟨seen, back, whole, matched⟩ := found
    rw [Text.utf8_append, List.append_assoc] at whole
    obtain ⟨left, x, rfl, same, rfl⟩ := Text.exists_cut (by decide : Text.IsAscii '/') whole
    obtain rfl := Text.utf8_injective same
    obtain ⟨own, shown⟩ := (below x matched).mp seen
    exact ⟨x, rfl, (isMatch_iff fresh x).mpr ⟨own, matched⟩, shown⟩
  · intro found
    obtain ⟨x, rfl, inside, shown⟩ := found
    obtain ⟨own, matched⟩ := (isMatch_iff fresh x).mp inside
    exact ⟨(below x matched).mpr ⟨own, shown⟩, Text.utf8 x, by simp [← Text.utf8_append], matched⟩

end Matching

structure FromRoot (glob : List Char) : Prop where
  single : ¬"**".toList <+: glob
  relative : glob.head? ≠ some '/'
  bare : ¬"./".toList <+: glob
  unbraced : Unbraced glob
  slashed : '\\' ∉ glob

end Glob

theorem Text.dropLeading_flatten {head s : List Char} (some : head ≠ []) (bare : ¬head <+: s) (n : Nat) :
    dropLeading head ((List.replicate n head).flatten ++ s) = s := by
  induction n with
  | zero =>
    have none : dropHead? head s = none := by
      rw [Option.eq_none_iff_forall_ne_some]
      intro rest found
      exact bare ⟨rest, (dropHead?_eq_some.mp found).symm⟩
    rw [List.replicate_zero, List.flatten_nil, List.nil_append, dropLeading, none]
  | succ n ih =>
    have parts : (List.replicate (n + 1) head).flatten ++ s = head ++ ((List.replicate n head).flatten ++ s) := by
      rw [List.replicate_succ, List.flatten_cons, List.append_assoc]
    have shorter : ((List.replicate n head).flatten ++ s).length <
        (head ++ ((List.replicate n head).flatten ++ s)).length := by
      have size := List.length_pos_iff.mpr some
      simp only [List.length_append]
      omega
    rw [parts, dropLeading, dropHead?_eq_some.mpr rfl]
    dsimp only
    rw [if_pos shorter, ih]

namespace PathFilter

open ModuleId (normalizeSlashes)

def above (root : Path) : List Char := (normalizeSlashes root.text.toList).rdropWhile (· = '/')

def dots (n : Nat) : List Char := (List.replicate n "./".toList).flatten

theorem anchorGlob_dots {glob : List Char} (fromRoot : Glob.FromRoot glob) (root : Path) (n : Nat) :
    anchorGlob root (dots n ++ glob) = Glob.escape (above root) ++ '/' :: glob := by
  have kept : normalizeSlashes (dots n ++ glob) = dots n ++ glob := by
    apply ModuleId.normalizeSlashes_of_not_mem
    simp [dots, fromRoot.slashed]
  have below : ¬("**".toList.isPrefixOf (dots n ++ glob) || (dots n ++ glob).head? = some '/') := by
    rw [Bool.or_eq_true, List.isPrefixOf_iff_prefix, decide_eq_true_eq, not_or]
    cases n with
    | zero => exact ⟨fromRoot.single, fromRoot.relative⟩
    | succ n => simp [dots, List.replicate_succ]
  unfold anchorGlob
  rw [kept]
  dsimp only
  rw [if_neg below]
  unfold dots
  rw [Text.dropLeading_flatten (by decide) fromRoot.bare]
  rfl

variable {root : Path} {glob : String} {n : Nat} {includes : FilterSpec}

/-- A glob from a root accepts what it matches by itself, below the root and nowhere else, whatever characters the
root is made of. -/
theorem accepts_iff_below (fromRoot : Glob.FromRoot glob.toList) {tokens : List Glob.Token}
    (read : Glob.parse? glob.toList = some tokens)
    (written : includes.patterns = [.glob (String.ofList (dots n ++ glob.toList))]) :
    ∃ f, ofSpecs includes (.many []) root = .ok f ∧
      ∀ id : String, ModuleId.Plain id.toList → (f.accepts id ↔ ∃ x, id.toList = above root ++ '/' :: x ∧
        Glob.isMatch tokens x ∧ ¬Glob.Hides (above root) tokens x) := by
  have anchored : Glob.parse? (anchorGlob root (dots n ++ glob.toList)) =
      some (Glob.verbatim (above root ++ ['/']) ++ tokens) := by
    rw [anchorGlob_dots fromRoot, Glob.parse?_escape fromRoot.unbraced fromRoot.single, read, Option.map_some]
  have included : Matchers.ofSpec root includes =
      .ok ⟨[Glob.verbatim (above root ++ ['/']) ++ tokens], []⟩ := by
    simp [Matchers.ofSpec, written, Matchers.add, anchored]
  refine ⟨_, ofSpecs_of_ofSpec included rfl, fun id plain => ?_⟩
  have fresh := Glob.leading_not_mem_parse? fromRoot.unbraced fromRoot.single read
  have real : '\x00' ∉ id.toList := fun member => (plain _ member).2.2 rfl
  have path : (ModuleId.file id).text.toList = id.toList := by
    have strip := ModuleId.stripQuery_append plain.noQuery (.inl rfl)
    rw [List.append_nil] at strip
    rw [ModuleId.file, String.toList_ofList, ModuleId.normalizeSlashes_of_not_mem plain.slashed, strip]
  rw [accepts_iff, path, ← Glob.isMatch_verbatim fresh]
  simp [real, Matchers.accepts, Matchers.isEmpty]

theorem accepts_below_slug : ∃ f, ofSpecs (.one (.glob "./*.ts")) (.many []) "/app/[slug]//" = .ok f ∧
    f.accepts "/app/[slug]/a.ts" ∧ ¬f.accepts "/app/s/a.ts" := by
  have fromRoot : Glob.FromRoot "*.ts".toList := ⟨by decide, by decide, by decide, by decide, by decide⟩
  have read : Glob.parse? "*.ts".toList = some [.star, .literal '.', .literal 't', .literal 's'] := by cbv
  obtain ⟨f, built, exact⟩ :=
    @accepts_iff_below "/app/[slug]//" "*.ts" 1 (.one (.glob "./*.ts")) fromRoot _ read rfl
  have plain : ModuleId.Plain "/app/[slug]/a.ts".toList := by simp [ModuleId.Plain]
  have elsewhere : ModuleId.Plain "/app/s/a.ts".toList := by simp [ModuleId.Plain]
  have shown : ¬Glob.Hides (above "/app/[slug]//") [.star, .literal '.', .literal 't', .literal 's'] "a.ts".toList :=
    fun hidden => absurd hidden.2.1 (by decide)
  refine ⟨f, built, (exact _ plain).mpr ⟨"a.ts".toList, by decide, by decide, shown⟩, fun found => ?_⟩
  obtain ⟨x, whole, -⟩ := (exact _ elsewhere).mp found
  exact absurd (show above "/app/[slug]//" <+: "/app/s/a.ts".toList from ⟨_, whole.symm⟩) (by decide)

/-- With a root that needs no escape, the same glob accepts the same step up. -/
theorem refuses_step_up : Glob.FromRoot "..".toList ∧ ModuleId.Plain "/pr[o]j/..".toList ∧
    "/pr[o]j/..".toList = above "/pr[o]j" ++ '/' :: "..".toList ∧
    (∃ tokens, Glob.parse? "..".toList = some tokens ∧ Glob.isMatch tokens "..".toList) ∧
    ∃ f, ofSpecs (.one (.glob "..")) (.many []) "/pr[o]j" = .ok f ∧ ¬f.accepts "/pr[o]j/.." := by
  have plain : ModuleId.Plain "/pr[o]j/..".toList := by simp [ModuleId.Plain]
  have read : Glob.parse? "..".toList = some [.literal '.', .literal '.'] := by cbv
  have alone : Glob.isMatch [.literal '.', .literal '.'] "..".toList := by decide
  have included : Matchers.ofSpec "/pr[o]j" (.one (.glob "..")) =
      .ok ⟨[Glob.verbatim "/pr[o]j/".toList ++ [.literal '.', .literal '.']], []⟩ := by
    cbv
  refine ⟨⟨by decide, by decide, by decide, by decide, by decide⟩, plain, by decide, ⟨_, read, alone⟩,
    _, ofSpecs_of_ofSpec included rfl, by decide⟩

end PathFilter

end DeclBundle
