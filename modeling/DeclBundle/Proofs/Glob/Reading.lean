import DeclBundle.Glob.Parser
import Mathlib.Data.List.Infix

namespace DeclBundle.Glob

def specials : List Char := ['?', '*', '[', ']', '\x7b', '\x7d']

def verbatimToken (c : Char) : Token := if c ∈ specials then .oneOf false [(c, c)] else .literal c

def verbatim (s : List Char) : List Token := s.map verbatimToken

def Unbraced (glob : List Char) : Prop := '\x7b' ∉ glob ∧ '\x7d' ∉ glob

instance : DecidablePred Unbraced := fun glob => inferInstanceAs (Decidable ('\x7b' ∉ glob ∧ '\x7d' ∉ glob))

section Reading

variable {previous : Option Char} {tokens : List Token}

theorem parseFrom_bracket (s : List Char) : parseFrom previous tokens [] ('[' :: s) =
    (set? s).bind fun (token, rest) => parseFrom (some ']') (token :: tokens) [] rest := by
  rw [parseFrom]
  split <;> simp_all

theorem parseFrom_set {c : Char} (special : c ∈ specials) (s : List Char) :
    parseFrom previous tokens [] ('[' :: c :: ']' :: s) =
      parseFrom (some ']') (.oneOf false [(c, c)] :: tokens) [] s := by
  have read : set? (c :: ']' :: s) = some (.oneOf false [(c, c)], s) := by
    simp only [specials, List.mem_cons, List.not_mem_nil, or_false] at special
    rcases special with rfl | rfl | rfl | rfl | rfl | rfl <;> rfl
  rw [parseFrom_bracket, read]
  rfl

theorem parseFrom_literal {c : Char} (plain : c ∉ ['?', '*', '[', '\x7b', '\x7d']) (s : List Char) :
    parseFrom previous tokens [] (c :: s) = parseFrom (some c) (.literal c :: tokens) [] s := by
  simp only [List.mem_cons, List.not_mem_nil, or_false, not_or] at plain
  by_cases comma : c = ','
  · rw [comma, parseFrom]
  · rw [parseFrom] <;> simp_all

theorem parseFrom_escape (root s : List Char) :
    parseFrom previous tokens [] (escape root ++ '/' :: s) =
      parseFrom (some '/') (.literal '/' :: ((verbatim root).reverse ++ tokens)) [] s := by
  induction root generalizing previous tokens with
  | nil => exact parseFrom_literal (by decide) s
  | cons c root ih =>
    have further : (verbatim (c :: root)).reverse ++ tokens =
        (verbatim root).reverse ++ verbatimToken c :: tokens := by
      simp [verbatim]
    rw [further]
    have parts : escape (c :: root) = (if c ∈ specials then ['[', c, ']'] else [c]) ++ escape root := rfl
    unfold verbatimToken
    rw [parts]
    split
    · rename_i special
      exact (parseFrom_set special _).trans ih
    · rename_i plain
      have fewer : ['?', '*', '[', '\x7b', '\x7d'] ⊆ specials := by decide
      exact (parseFrom_literal (fun member => plain (fewer member)) _).trans ih

theorem setRest?_suffix {r : Ranges} {s rest : List Char} {ranges : List (Char × Char)}
    (read : setRest? r s = some (ranges, rest)) : rest <:+ s := by
  induction s generalizing r with
  | nil => cases read
  | cons c s ih =>
    unfold setRest? at read
    split at read
    · cases read
    · rename_i same
      cases same
      cases read
      exact List.suffix_cons ..
    · rename_i same
      cases same
      obtain ⟨r', -, read⟩ := Option.bind_eq_some_iff.mp read
      exact (ih read).trans (List.suffix_cons ..)

theorem set?_suffix {s rest : List Char} {token : Token} (read : set? s = some (token, rest)) :
    rest <:+ s ∧ token ≠ .leading := by
  unfold set? at read
  split at read
  rename_i negated body mark
  have inside : body <:+ s := by
    split at mark <;> cases mark <;> simp
  split at read
  · cases read
  · rename_i c more
    obtain ⟨r, -, read⟩ := Option.bind_eq_some_iff.mp read
    obtain ⟨⟨ranges, rest'⟩, later, read⟩ := Option.map_eq_some_iff.mp read
    cases read
    exact ⟨((setRest?_suffix later).trans (List.suffix_cons ..)).trans inside, Token.noConfusion⟩

theorem Unbraced.of_suffix {s rest : List Char} (unbraced : Unbraced s) (suffix : rest <:+ s) :
    Unbraced rest :=
  ⟨fun member => unbraced.1 (suffix.subset member), fun member => unbraced.2 (suffix.subset member)⟩

theorem Unbraced.tail {c : Char} {s : List Char} (unbraced : Unbraced (c :: s)) : Unbraced s :=
  unbraced.of_suffix (List.suffix_cons c s)

theorem doubleStar_append (some : tokens ≠ []) (before : List Token) (previous : Option Char) (s : List Char) :
    doubleStar (tokens ++ before) previous false s =
      ((doubleStar tokens previous false s).1 ++ before, (doubleStar tokens previous false s).2) := by
  obtain ⟨t, earlier, rfl⟩ := List.exists_cons_of_ne_nil some
  rw [List.cons_append]
  unfold doubleStar
  dsimp only
  by_cases behind : previous = '/'
  · subst behind
    cases s with
    | nil => cases t <;> rfl
    | cons c s =>
      by_cases separator : c = '/'
      · subst separator
        cases t <;> rfl
      · simp
  · simp [behind]

theorem leading_not_mem_doubleStar (some : tokens ≠ []) (fresh : .leading ∉ tokens) (s : List Char) :
    .leading ∉ (doubleStar tokens previous false s).1 := by
  obtain ⟨t, earlier, rfl⟩ := List.exists_cons_of_ne_nil some
  unfold doubleStar
  dsimp only
  by_cases behind : previous = '/'
  · subst behind
    cases s with
    | nil => cases t <;> simp_all
    | cons c s =>
      by_cases separator : c = '/'
      · subst separator
        cases t <;> simp_all
      · simp_all
  · simp_all

theorem doubleStar_ne_nil (previous : Option Char) (inside : Bool) (s : List Char) :
    (doubleStar tokens previous inside s).1 ≠ [] := by
  unfold doubleStar
  dsimp only
  repeat' split
  all_goals simp

theorem suffix_doubleStar (tokens : List Token) (previous : Option Char) (inside : Bool) (s : List Char) :
    (doubleStar tokens previous inside s).2 <:+ s := by
  unfold doubleStar
  dsimp only
  repeat' split
  all_goals simp

theorem parseFrom_doubleStar (s : List Char) :
    parseFrom previous tokens [] ('*' :: '*' :: s) =
      parseFrom (some (if (doubleStar tokens previous false s).2.length < s.length then '/' else '*'))
        (doubleStar tokens previous false s).1 [] (doubleStar tokens previous false s).2 := by
  rw [parseFrom]
  rfl

theorem parseFrom_step {c : Char} {s : List Char} (unbraced : Unbraced (c :: s)) (single : ¬['*', '*'] <+: c :: s) :
    (∀ previous tokens, parseFrom previous tokens [] (c :: s) = none) ∨
      ∃ last token rest, rest <:+ s ∧ token ≠ .leading ∧
        ∀ previous tokens, parseFrom previous tokens [] (c :: s) = parseFrom last (token :: tokens) [] rest := by
  by_cases bracket : c = '['
  · subst bracket
    cases read : set? s with
    | none => exact .inl fun _ _ => by rw [parseFrom_bracket, read, Option.bind_none]
    | some found =>
      obtain ⟨token, rest⟩ := found
      obtain ⟨suffix, other⟩ := set?_suffix read
      exact .inr ⟨some ']', token, rest, suffix, other, fun _ _ => by rw [parseFrom_bracket, read, Option.bind_some]⟩
  · right
    by_cases question : c = '?'
    · subst question
      exact ⟨some '?', .any, s, List.suffix_rfl, Token.noConfusion, fun _ _ => by rw [parseFrom]⟩
    · by_cases star : c = '*'
      · subst star
        refine ⟨some '*', .star, s, List.suffix_rfl, Token.noConfusion, fun _ _ => ?_⟩
        rw [parseFrom]
        intro rest same
        exact single (by simp [same])
      · have opening : c ≠ '\x7b' := fun same => unbraced.1 (by simp [same])
        have closing : c ≠ '\x7d' := fun same => unbraced.2 (by simp [same])
        exact ⟨some c, .literal c, s, List.suffix_rfl, Token.noConfusion,
          fun _ _ => parseFrom_literal (by simp [bracket, question, star, opening, closing]) s⟩

/-- Reading a pattern that has begun, or that does not begin with two stars, is not changed by what has been
read before it. -/
theorem parseFrom_append {s : List Char} (unbraced : Unbraced s) {previous previous' : Option Char}
    (begun : tokens ≠ [] ∧ previous' = previous ∨ ¬['*', '*'] <+: s) (before : List Token) :
    parseFrom previous' (tokens ++ before) [] s =
      (parseFrom previous tokens [] s).map (before.reverse ++ ·) := by
  induction size : s.length using Nat.strong_induction_on generalizing s previous previous' tokens with
  | _ size ih =>
    subst size
    by_cases double : ['*', '*'] <+: s
    · obtain ⟨s, rfl⟩ : ∃ rest, s = '*' :: '*' :: rest := double.imp fun _ => Eq.symm
      obtain ⟨some, rfl⟩ := begun.resolve_right (not_not_intro (List.prefix_append ..))
      have tail := suffix_doubleStar tokens previous' false s
      rw [parseFrom_doubleStar, parseFrom_doubleStar, doubleStar_append some]
      exact ih _ (Nat.lt_add_right 1 (Nat.lt_succ_of_le tail.length_le))
        (unbraced.tail.tail.of_suffix tail) (.inl ⟨doubleStar_ne_nil _ _ _, rfl⟩) rfl
    · cases s with
      | nil => simp [parseFrom]
      | cons c s =>
        rcases parseFrom_step unbraced double with refused | ⟨last, token, rest, suffix, -, step⟩
        · rw [refused, refused, Option.map_none]
        · rw [step, step]
          exact ih rest.length (Nat.lt_succ_of_le suffix.length_le) (unbraced.tail.of_suffix suffix)
            (.inl ⟨List.cons_ne_nil _ _, rfl⟩) rfl

theorem leading_not_mem_parseFrom {s : List Char} (unbraced : Unbraced s) (fresh : .leading ∉ tokens)
    (begun : tokens ≠ [] ∨ ¬['*', '*'] <+: s) {result : List Token}
    (read : parseFrom previous tokens [] s = some result) : .leading ∉ result := by
  -- On the length of the text: two stars and a set take several characters at once.
  induction size : s.length using Nat.strong_induction_on generalizing s previous tokens with
  | _ size ih =>
    subst size
    by_cases double : ['*', '*'] <+: s
    · obtain ⟨s, rfl⟩ : ∃ rest, s = '*' :: '*' :: rest := double.imp fun _ => Eq.symm
      have some := begun.resolve_right (not_not_intro (List.prefix_append ..))
      have tail := suffix_doubleStar tokens previous false s
      rw [parseFrom_doubleStar] at read
      exact ih _ (Nat.lt_add_right 1 (Nat.lt_succ_of_le tail.length_le)) (unbraced.tail.tail.of_suffix tail)
        (leading_not_mem_doubleStar some fresh s) (.inl (doubleStar_ne_nil _ _ _)) read rfl
    · cases s with
      | nil =>
        rw [parseFrom] at read
        cases read
        simpa using fresh
      | cons c s =>
        rcases parseFrom_step unbraced double with refused | ⟨last, token, rest, suffix, other, step⟩
        · rw [refused] at read
          cases read
        · rw [step] at read
          exact ih rest.length (Nat.lt_succ_of_le suffix.length_le) (unbraced.tail.of_suffix suffix)
            (List.not_mem_cons_of_ne_of_not_mem other.symm fresh) (.inl (List.cons_ne_nil _ _)) read rfl

end Reading

theorem parse?_escape {glob : List Char} (unbraced : Unbraced glob) (single : ¬['*', '*'] <+: glob)
    (root : List Char) :
    parse? (escape root ++ '/' :: glob) = (parse? glob).map (verbatim (root ++ ['/']) ++ ·) := by
  have append := @parseFrom_append [] glob unbraced none (some '/') (.inr single)
    (.literal '/' :: (verbatim root).reverse)
  have written : verbatim (root ++ ['/']) = (Token.literal '/' :: (verbatim root).reverse).reverse := by
    simp [verbatim, verbatimToken, specials]
  unfold parse?
  rw [parseFrom_escape, List.append_nil, written]
  exact append

theorem leading_not_mem_parse? {glob : List Char} (unbraced : Unbraced glob) (single : ¬['*', '*'] <+: glob)
    {tokens : List Token} (read : parse? glob = some tokens) : .leading ∉ tokens :=
  leading_not_mem_parseFrom unbraced List.not_mem_nil (.inr single) read

end DeclBundle.Glob
