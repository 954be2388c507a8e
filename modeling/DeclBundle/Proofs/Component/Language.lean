import DeclBundle.Proofs.Component.Script

namespace DeclBundle

namespace ModuleId

theorem infix_normalizeSlashes {inner : List Char} (clean : '/' ∉ inner)
    (kept : normalizeSlashes inner = inner) (s : List Char) :
    inner <:+: normalizeSlashes s ↔ inner <:+: s := by
  constructor
  · exact infix_of_normalizeSlashes clean
  · intro found
    rw [← kept]
    exact found.map _

theorem saysTyped_normalizeSlashes (s : String) : saysTyped (normalizeSlashes s.toList) ↔ Typed s := by
  rw [saysTyped_iff, infix_normalizeSlashes (by decide) (by decide),
    infix_normalizeSlashes (by decide) (by decide)]
  rfl

theorem saysTyped_query (p q : String) :
    saysTyped (normalizeSlashes (p ++ "?" ++ q).toList) ↔ Typed p ∨ Typed q := by
  rw [normalizeSlashes_query, saysTyped_append_cons (by decide), Bool.or_eq_true,
    saysTyped_normalizeSlashes, saysTyped_normalizeSlashes]

theorem isScript_query_iff {p p' : String} (component : IsComponent p) (component' : IsComponent p')
    (q : String) : isScript (normalizeSlashes (p ++ "?" ++ q).toList) ↔
      isScript (normalizeSlashes (p' ++ "?" ++ q).toList) := by
  rw [normalizeSlashes_query, normalizeSlashes_query,
    isScript_query component.suffix_normalizeSlashes component.noQuery_normalizeSlashes,
    isScript_query component'.suffix_normalizeSlashes component'.noQuery_normalizeSlashes]

end ModuleId

open ModuleId (IsComponent AsksScript Typed normalizeSlashes spelled)

def scriptLang? (id : String) (root : Path) : Option ScriptLang :=
  match classify id root with
  | some (.script _ lang) => some lang
  | _ => none

theorem scriptLang?_eq_none {id : String} (unasked : ¬ModuleId.isScript (normalizeSlashes id.toList))
    (root : Path) : scriptLang? id root = none := by
  unfold scriptLang?
  rw [classify_of_not_isScript unasked]
  split
  · rename_i found
    split at found <;> cases found
  · rfl

section Components

variable {p p' : String} (component : IsComponent p)

include component

theorem scriptLang?_eq_some_iff (q : String) (root : Path) (lang : ScriptLang) :
    scriptLang? (p ++ "?" ++ q) root = some lang ↔
      ModuleId.isScript (normalizeSlashes (p ++ "?" ++ q).toList) ∧
        (lang = .typeScript ↔ Typed p ∨ Typed q) := by
  by_cases asked : ModuleId.isScript (normalizeSlashes (p ++ "?" ++ q).toList)
  · unfold scriptLang?
    rw [classify_script component asked, ← ModuleId.saysTyped_query, and_iff_right asked]
    generalize ModuleId.saysTyped _ = typed
    cases typed <;> cases lang <;> simp
  · rw [scriptLang?_eq_none asked]
    exact iff_of_false nofun fun both => asked both.1

theorem classify_moduleId_lang {source : String} {script : Script}
    (held : Script.ofSource? source = some script) (root : Path) :
    ∃ lang, classify (script.moduleId ⟨p⟩) root = some (.script (root.resolve (spelled p)) lang) ∧
      (lang = .typeScript ↔ Typed p ∨ ∃ name, script.lang = some name ∧ "ts".toList <+: name.toList) := by
  have asked := isScript_of_asks component (Script.asksScript_query held)
  rw [Script.moduleId_eq, classify_script component asked, ← Script.typed_query_iff held,
    ← ModuleId.saysTyped_query]
  refine ⟨_, rfl, ?_⟩
  generalize ModuleId.saysTyped _ = typed
  cases typed <;> decide

/-- Two components that are asked for alike are both admitted or neither. Their languages are the same just
if the query names a typed one, or both paths do, or neither does; and so the language of a script that is
asked for by its own identifier is the one that was named, but for paths that name a typed one. -/
theorem lang_of_components (component' : IsComponent p') (q : String) (root : Path) :
    (AsksScript q → scriptLang? (p ++ "?" ++ q) root ≠ none) ∧
    (scriptLang? (p ++ "?" ++ q) root = none ↔ scriptLang? (p' ++ "?" ++ q) root = none) ∧
    (∀ lang lang', scriptLang? (p ++ "?" ++ q) root = some lang →
      scriptLang? (p' ++ "?" ++ q) root = some lang' →
        (lang = lang' ↔ Typed q ∨ (Typed p ↔ Typed p'))) ∧
    ∀ source script, Script.ofSource? source = some script →
      ∃ lang, classify (script.moduleId ⟨p⟩) root = some (.script (root.resolve (spelled p)) lang) ∧
        (lang = .typeScript ↔ Typed p ∨ ∃ name, script.lang = some name ∧ "ts".toList <+: name.toList) := by
  have admitted {p : String} (component : IsComponent p) :
      scriptLang? (p ++ "?" ++ q) root = none ↔
        ¬ModuleId.isScript (normalizeSlashes (p ++ "?" ++ q).toList) := by
    constructor
    · intro none asked
      unfold scriptLang? at none
      rw [classify_script component asked] at none
      cases none
    · exact fun unasked => scriptLang?_eq_none unasked root
  refine ⟨fun query => ?_, ?_, fun lang lang' said said' => ?_, fun source script held =>
    classify_moduleId_lang component held root⟩
  · exact fun none => (admitted component).mp none (isScript_of_asks component query)
  · rw [admitted component, admitted component', ModuleId.isScript_query_iff component component']
  · have own := ((scriptLang?_eq_some_iff component q root lang).mp said).2
    have other := ((scriptLang?_eq_some_iff component' q root lang').mp said').2
    have same : lang = lang' ↔ (lang = .typeScript ↔ lang' = .typeScript) := by
      cases lang <;> cases lang' <;> decide
    rw [same, own, other]
    by_cases typed : Typed q <;> simp [typed]

end Components

theorem lang_of_components_card :
    IsComponent "/proj/src/Card.vue" ∧ IsComponent "lib\\Card.vue" ∧
      scriptLang? ("/proj/src/Card.vue" ++ "?" ++ "vue&type=script&lang.ts") "/proj" =
        scriptLang? ("lib\\Card.vue" ++ "?" ++ "vue&type=script&lang.ts") "/proj" := by
  have component : IsComponent "/proj/src/Card.vue" := ⟨⟨"/proj/src/Card".toList, by decide⟩, by decide⟩
  have component' : IsComponent "lib\\Card.vue" := ⟨⟨"lib\\Card".toList, by decide⟩, by decide⟩
  refine ⟨component, component', ?_⟩
  obtain ⟨asked, both, same, -⟩ :=
    lang_of_components component component' "vue&type=script&lang.ts" "/proj"
  have query : AsksScript "vue&type=script&lang.ts" :=
    ⟨⟨"vue&".toList, "&lang.ts".toList, by decide⟩, by decide⟩
  obtain ⟨lang, said⟩ := Option.ne_none_iff_exists'.mp (asked query)
  obtain ⟨lang', said'⟩ := Option.ne_none_iff_exists'.mp (mt both.mpr (asked query))
  have typed : Typed "vue&type=script&lang.ts" := .inl ⟨"vue&type=script&".toList, [], by decide⟩
  rw [said, said', (same lang lang' said said').mpr (.inl typed)]

/-- A directory that is named after a language makes the script of a component typed. -/
theorem lang_by_directory :
    IsComponent "/proj/lang.ts/Card.vue" ∧ IsComponent "/proj/src/Card.vue" ∧
      "type=script".toList <:+: "vue&type=script".toList ∧
      scriptLang? ("/proj/lang.ts/Card.vue" ++ "?" ++ "vue&type=script") "/proj" = some .typeScript ∧
      scriptLang? ("/proj/src/Card.vue" ++ "?" ++ "vue&type=script") "/proj" = some .javaScript := by
  refine ⟨⟨⟨"/proj/lang.ts/Card".toList, by decide⟩, by decide⟩,
    ⟨⟨"/proj/src/Card".toList, by decide⟩, by decide⟩, ⟨"vue&".toList, [], by decide⟩, ?_, ?_⟩
  · decide +kernel
  · decide +kernel

end DeclBundle
