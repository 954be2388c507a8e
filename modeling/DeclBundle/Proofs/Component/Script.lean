import DeclBundle.Component.Script
import DeclBundle.Proofs.Module.Component

namespace DeclBundle

namespace Component

theorem isLetter_of_langAt? {s lang : List Char} (named : langAt? s = some lang) :
    ∀ c ∈ lang, isLetter c := by
  unfold langAt? at named
  split at named
  · cases named
  · split at named
    · dsimp only at named
      split at named
      all_goals
        split at named
        · cases named
        · rw [← Option.some.inj named]
          exact fun c member => List.mem_takeWhile_imp member
    · cases named

theorem isLetter_of_lang? {previous : Option Char} {s lang : List Char}
    (named : lang? previous s = some lang) : ∀ c ∈ lang, isLetter c := by
  induction s generalizing previous with
  | nil => cases named
  | cons c s ih =>
    unfold lang? at named
    dsimp only at named
    rcases Option.or_eq_some_iff.mp named with here | ⟨-, later⟩
    · split at here
      · exact isLetter_of_langAt? here
      · cases here
    · exact ih later

end Component

namespace Script

open ModuleId (AsksScript Typed)

theorem isLetter_of_lang {source : String} {script : Script}
    (held : Script.ofSource? source = some script) {lang : String} (named : script.lang = some lang) :
    ∀ c ∈ lang.toList, Component.isLetter c := by
  have found : ∃ b : Component.Block, Component.lang? none b.attributes = some lang.toList := by
    have all : script.lang = ((Component.blocks source.toList).findSome? fun b =>
        Component.lang? none b.attributes).map String.ofList := by
      unfold Script.ofSource? Script.ofBlocks? at held
      dsimp only at held
      split at held
      · cases held
      all_goals
        cases held
        rfl
    rw [all] at named
    obtain ⟨letters, first, rfl⟩ := Option.map_eq_some_iff.mp named
    obtain ⟨b, -, some⟩ := List.exists_of_findSome?_eq_some first
    exact ⟨b, by rw [some, String.toList_ofList]⟩
  obtain ⟨b, some⟩ := found
  exact Component.isLetter_of_lang? some

def asking (s : Script) : String := "vue&type=script" ++ if s.setup then "&setup=true" else ""

def query (s : Script) : String :=
  s.asking ++
    match s.lang with
    | some lang => "&lang." ++ lang
    | none => ""

theorem moduleId_eq (s : Script) (component : Path) :
    s.moduleId component = component.text ++ "?" ++ s.query := by
  unfold moduleId query asking
  simp only [String.append_assoc, ← String.toList_inj, String.toList_append]
  rfl

theorem clean_query {source : String} {script : Script} (held : Script.ofSource? source = some script)
    {c : Char} (foreign : ¬Component.isLetter c) (other : c ∉ ['&', '=', '.']) : c ∉ script.query.toList := by
  have asking : c ∉ script.asking.toList := by
    intro member
    have known : script.asking.toList.all fun c => Component.isLetter c || ['&', '=', '.'].contains c := by
      unfold Script.asking
      split <;> rfl
    have allowed := List.all_eq_true.mp known c member
    simp [foreign] at allowed
    simp [allowed] at other
  unfold query
  intro member
  rcases List.mem_append.mp (String.toList_append ▸ member) with first | rest
  · exact asking first
  · cases named : script.lang with
    | none => simp [named] at rest
    | some lang =>
      rw [named] at rest
      rcases List.mem_append.mp (String.toList_append ▸ rest) with mark | letter
      · have known : "&lang.".toList.all fun c => Component.isLetter c || ['&', '=', '.'].contains c := rfl
        have allowed := List.all_eq_true.mp known c mark
        simp [foreign] at allowed
        simp [allowed] at other
      · exact foreign (isLetter_of_lang held named c letter)

theorem asksScript_query {source : String} {script : Script}
    (held : Script.ofSource? source = some script) : AsksScript script.query := by
  refine ⟨⟨"vue&".toList, script.query.toList.drop 15, ?_⟩, clean_query held (by decide) (by decide)⟩
  simp [query, asking]

theorem typed_query_iff {source : String} {script : Script} (held : Script.ofSource? source = some script) :
    Typed script.query ↔ ∃ lang, script.lang = some lang ∧ "ts".toList <+: lang.toList := by
  have plain : ¬Typed (script.asking ++ "&lang") := by
    unfold Script.asking
    split <;> decide
  have shorter : script.asking.toList <:+: (script.asking ++ "&lang").toList := by
    rw [String.toList_append]
    exact (List.prefix_append ..).isInfix
  cases named : script.lang with
  | none =>
    have bare : script.query = script.asking := by simp [query, named]
    have untyped : ¬Typed script.query := by
      rw [bare]
      intro typed
      exact plain (typed.imp (·.trans shorter) (·.trans shorter))
    simp [untyped]
  | some lang =>
    have foreign {c : Char} (other : ¬Component.isLetter c) : c ∉ lang.toList :=
      fun member => other (isLetter_of_lang held named c member)
    have whole : script.query.toList = (script.asking ++ "&lang").toList ++ '.' :: lang.toList := by
      simp [query, named]
    have front : '.' ∉ (script.asking ++ "&lang").toList := by
      unfold asking
      split <;> decide
    have value : ¬"lang=ts".toList <:+: script.query.toList := by
      rw [whole, Text.infix_append_cons_iff (by decide)]
      intro found
      rcases found with inFront | behind
      · exact plain (.inr inFront)
      · exact foreign (by decide) (behind.subset (by decide : '=' ∈ "lang=ts".toList))
    have ending : "lang".toList <:+ (script.asking ++ "&lang").toList := by
      rw [String.toList_append]
      exact (by decide : "lang".toList <:+ "&lang".toList).trans (List.suffix_append ..)
    have split := Text.infix_around_iff (u := "lang".toList) (v := "ts".toList) front (foreign (by decide))
    rw [← whole] at split
    unfold Typed
    simp only [value, or_false, Option.some.injEq, exists_eq_left']
    exact split.trans (and_iff_right ending)

theorem exists_moduleId {source : String} {script : Script}
    (held : Script.ofSource? source = some script) (component : Path) :
    ∃ more, (script.moduleId component).toList =
        component.text.toList ++ ("?vue&type=script".toList ++ more) ∧ '\x00' ∉ more := by
  refine ⟨script.query.toList.drop 15, ?_, fun member => ?_⟩
  · simp [moduleId_eq, query, asking]
  · exact clean_query held (by decide) (by decide) (List.mem_of_mem_drop member)

end Script

end DeclBundle
