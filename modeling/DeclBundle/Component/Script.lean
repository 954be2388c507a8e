import DeclBundle.Path.Basic
import DeclBundle.Text.Blank
import DeclBundle.Text.Search
import DeclBundle.Unicode.Word

namespace DeclBundle.Component

structure Block where
  attributes : List Char
  body : List Char
deriving DecidableEq, Repr

def endsWord : List Char → Bool
  | [] => true
  | c :: _ => !Unicode.isWord c

def openingTag? (s : List Char) : Option (List Char × List Char) :=
  match Text.dropHead? "<script".toList s with
  | none => none
  | some s =>
    if !endsWord s then none
    else match s.dropWhile (· != '>') with
      | [] => none
      | _ :: rest => some (s.takeWhile (· != '>'), rest)

def closingTag? (s : List Char) : Option (List Char) :=
  match Text.dropHead? "</script".toList s with
  | none => none
  | some s =>
    match s.dropWhile Text.isBlank with
    | '>' :: rest => some rest
    | _ => none

def body? : List Char → Option (List Char × List Char)
  | [] => none
  | c :: s =>
    match closingTag? (c :: s) with
    | some rest => some ([], rest)
    | none => (body? s).map fun (body, rest) => (c :: body, rest)

def block? (s : List Char) : Option (Block × List Char) :=
  match openingTag? s with
  | none => none
  | some (attributes, s) => (body? s).map fun (body, rest) => (⟨attributes, body⟩, rest)

theorem openingTag?_length {s attributes rest : List Char}
    (h : openingTag? s = some (attributes, rest)) : rest.length < s.length := by
  unfold openingTag? at h
  split at h
  · contradiction
  · rename_i s' hs
    have := Text.dropHead?_length hs
    split at h
    · contradiction
    · split at h
      · contradiction
      · rename_i c tail htail
        have hle := (List.dropWhile_sublist (· != '>') (l := s')).length_le
        obtain ⟨_, rfl⟩ := Prod.mk.inj (Option.some.inj h)
        rw [htail, List.length_cons] at hle
        have : ("<script".toList).length = 7 := rfl
        omega

theorem closingTag?_length {s rest : List Char} (h : closingTag? s = some rest) :
    rest.length < s.length := by
  unfold closingTag? at h
  split at h
  · contradiction
  · rename_i s' hs
    have := Text.dropHead?_length hs
    split at h
    · rename_i tail htail
      have hle := (List.dropWhile_sublist Text.isBlank (l := s')).length_le
      rw [Option.some.inj h] at htail
      rw [htail, List.length_cons] at hle
      omega
    · contradiction

theorem body?_length {s body rest : List Char} (h : body? s = some (body, rest)) :
    rest.length < s.length := by
  induction s generalizing body with
  | nil => simp [body?] at h
  | cons c s ih =>
    unfold body? at h
    split at h
    · rename_i hc
      obtain ⟨_, rfl⟩ := Prod.mk.inj (Option.some.inj h)
      exact closingTag?_length hc
    · obtain ⟨⟨body', rest'⟩, hb, h⟩ := Option.map_eq_some_iff.1 h
      obtain ⟨_, rfl⟩ := Prod.mk.inj h
      have := ih hb
      simp only [List.length_cons]
      omega

theorem block?_length {s rest : List Char} {b : Block} (h : block? s = some (b, rest)) :
    rest.length < s.length := by
  unfold block? at h
  split at h
  · contradiction
  · rename_i ho
    obtain ⟨⟨body, rest'⟩, hb, h⟩ := Option.map_eq_some_iff.1 h
    obtain ⟨_, rfl⟩ := Prod.mk.inj h
    exact Nat.lt_trans (body?_length hb) (openingTag?_length ho)

def blocks : List Char → List Block
  | [] => []
  | c :: s =>
    match h : block? (c :: s) with
    | some (b, rest) =>
      have := block?_length h
      b :: blocks rest
    | none => blocks s
termination_by s => s.length
decreasing_by all_goals (simp only [List.length_cons] at *; omega)

def isLetter (c : Char) : Bool := c.isAlpha

def langAt? (s : List Char) : Option (List Char) :=
  match Text.dropHead? "lang".toList s with
  | none => none
  | some s =>
    match s.dropWhile Text.isBlank with
    | '=' :: s =>
      let s := s.dropWhile Text.isBlank
      let s := match s with
        | '"' :: s => s
        | '\'' :: s => s
        | s => s
      let name := s.takeWhile isLetter
      if name.isEmpty then none else some name
    | _ => none

/-- The first language that attributes name; `lang` begins a word. -/
def lang? (previous : Option Char) : List Char → Option (List Char)
  | [] => none
  | c :: s =>
    -- `xlang` is another word, but in `x-lang` a word begins
    let found := if previous.all fun p => !Unicode.isWord p then langAt? (c :: s) else none
    found.or (lang? (some c) s)

def setupAt (s : List Char) : Bool :=
  match Text.dropHead? "setup".toList s with
  | none => false
  | some [] => true
  | some (c :: _) => c = '=' || Text.isBlank c

def setupAfterBlank : List Char → Bool
  | [] => false
  | c :: s => (Text.isBlank c && setupAt s) || setupAfterBlank s

/-- Whether attributes hold `setup`, at their start or after a blank. -/
def isSetup (attributes : List Char) : Bool := setupAt attributes || setupAfterBlank attributes

def Block.content (b : Block) : List Char :=
  ((b.body.dropWhile (· = '\n')).reverse.dropWhile (· = '\n')).reverse

end DeclBundle.Component

namespace DeclBundle

open Component

structure Script where
  content : String
  lang : Option String
  setup : Bool
deriving DecidableEq, Repr

namespace Script

def ofBlocks? (blocks : List Block) : Option Script :=
  let plain := blocks.find? fun b => !isSetup b.attributes
  let setup := blocks.find? fun b => isSetup b.attributes
  let lang := (blocks.findSome? fun b => lang? none b.attributes).map String.ofList
  let script (content : List Char) : Script := ⟨String.ofList content, lang, setup.isSome⟩
  match plain, setup with
  | none, none => none
  | some plain, none => some (script plain.content)
  | none, some setup => some (script setup.content)
  | some plain, some setup => some (script (plain.content ++ '\n' :: setup.content))

def ofSource? (source : String) : Option Script := ofBlocks? (blocks source.toList)

/-- The identifier under which a bundler asks for the script of a component. -/
def moduleId (s : Script) (component : Path) : String :=
  component.text ++ "?vue&type=script" ++ (if s.setup then "&setup=true" else "") ++
    match s.lang with
    | some lang => "&lang." ++ lang
    | none => ""

end Script

end DeclBundle
