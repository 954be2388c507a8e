import DeclBundle.Module.Admission
import DeclBundle.Proofs.Path.FileName

namespace DeclBundle

namespace Path

def moduleEndings : List String := [".ts", ".tsx", ".js"]

def IsModule (p : Path) : Prop := ∃ ending ∈ moduleEndings, ending.toList <:+ p.text.toList

def moduleStem (n : String) : String :=
  String.ofList ((moduleEndings.findSome? fun ending =>
    Text.dropTail? ending.toList n.toList).getD n.toList)

theorem moduleStem_append {ending : String} (known : ending ∈ moduleEndings) (stem : String) :
    moduleStem (stem ++ ending) = stem := by
  simp only [moduleEndings, List.mem_cons, List.not_mem_nil, or_false] at known
  rcases known with rfl | rfl | rfl <;>
    simp [moduleStem, moduleEndings, Text.dropTail?, Text.dropHead?]

def declaredName (n : String) : String := moduleStem n ++ ".d.ts"

theorem IsModule.parts {p : Path} (module : p.IsModule) :
    ∃ (front : Path) (stem ending : String), ending ∈ moduleEndings ∧ '/' ∉ stem.toList ∧
      p.text = front.text ++ stem ++ ending ∧ p.StandsAt front.location (stem ++ ending) ∧
      ∀ m, IsName (stem ++ m) → (⟨front.text ++ stem ++ m⟩ : Path) = front.join ⟨stem ++ m⟩ := by
  obtain ⟨ending, known, suffix⟩ := module
  obtain ⟨front, stem, clean, whole, joined⟩ := exists_join_of_ending suffix
  have name : IsName (stem ++ ending) := by
    simp only [moduleEndings, List.mem_cons, List.not_mem_nil, or_false] at known
    rcases known with rfl | rfl | rfl <;> exact isName_append_ending clean (by decide) (by decide)
  have same : p = front.join ⟨stem ++ ending⟩ := by rw [← joined ending name, ← whole]
  exact ⟨front, stem, ending, known, clean, whole, same ▸ standsAt_join front name, joined⟩

theorem suffix_join {base p : Path} {ending : List Char} (suffix : ending <:+ p.text.toList) :
    ending <:+ (base.join p).text.toList := by
  by_cases rooted : p.isRooted
  · rwa [join_of_rooted base rooted]
  · by_cases empty : base.text = ""
    · rwa [join_of_empty empty]
    · obtain ⟨front, -, joined⟩ := exists_join_eq empty
      rw [joined p rooted, String.toList_append]
      exact suffix.trans (List.suffix_append ..)

theorem suffix_normalize {p : Path} {ending : String} (suffix : ending.toList <:+ p.text.toList)
    (noSlash : '/' ∉ ending.toList) (long : 2 < ending.length) :
    ending.toList <:+ p.normalize.text.toList := by
  obtain ⟨front, stem, clean, whole, joined⟩ := exists_join_of_ending suffix
  have name : IsName (stem ++ ending) := isName_append_ending clean noSlash long
  have place : p.location = front.location.descend [stem ++ ending] := by
    have same : p = front.join ⟨stem ++ ending⟩ := by rw [← joined ending name, ← whole]
    rw [same]
    exact location_join_name front name
  unfold normalize
  rw [place, Location.steps_descend]
  exact ⟨_, by rw [List.map_singleton, text_ofSteps_concat, String.toList_append]⟩

end Path

theorem isModule_script (component : Path) (lang : ScriptLang) :
    (Admission.script component lang).logicalPath.IsModule := by
  cases lang with
  | typeScript => exact ⟨".ts", by decide, component.text.toList,
      by simp [Admission.logicalPath, ScriptLang.extension]⟩
  | javaScript => exact ⟨".js", by decide, component.text.toList,
      by simp [Admission.logicalPath, ScriptLang.extension]⟩

theorem isModule_resolve {id : List Char} (typed : ModuleId.isTypeScript id) (root : Path) :
    (root.resolve ⟨String.ofList id⟩).IsModule := by
  have resolved (ending : String) (suffix : ending.toList <:+ id) (noSlash : '/' ∉ ending.toList)
      (long : 2 < ending.length) :
      ending.toList <:+ (root.resolve ⟨String.ofList id⟩).text.toList := by
    apply Path.suffix_normalize _ noSlash long
    apply Path.suffix_join
    rwa [String.toList_ofList]
  simp only [ModuleId.isTypeScript, Bool.or_eq_true, List.isSuffixOf_iff_suffix] at typed
  rcases typed with suffix | suffix
  · exact ⟨".ts", by decide, resolved ".ts" suffix (by decide) (by decide)⟩
  · exact ⟨".tsx", by decide, resolved ".tsx" suffix (by decide) (by decide)⟩

@[simp] theorem logicalPath_standalone (p : Path) : (Admission.standalone p).logicalPath = p := rfl

section Classification

open ModuleId (normalizeSlashes stripQuery isScript isTypeScript saysTyped)

variable {id : String}

theorem classify_of_isScript (asked : isScript (normalizeSlashes id.toList)) (root : Path) :
    classify id root = some (.script (root.resolve ⟨String.ofList (stripQuery (normalizeSlashes id.toList))⟩)
      (if saysTyped (normalizeSlashes id.toList) then .typeScript else .javaScript)) :=
  if_pos asked

theorem classify_of_not_isScript (unasked : ¬isScript (normalizeSlashes id.toList)) (root : Path) :
    classify id root =
      if isTypeScript (normalizeSlashes id.toList) then
        some (.standalone (root.resolve ⟨String.ofList (normalizeSlashes id.toList)⟩))
      else none :=
  if_neg unasked

theorem classify_cases {root : Path} {a : Admission} (admitted : classify id root = some a) :
    (∃ lang, a = .script (root.resolve ⟨String.ofList (stripQuery (normalizeSlashes id.toList))⟩) lang) ∨
      isTypeScript (normalizeSlashes id.toList) ∧
        a = .standalone (root.resolve ⟨String.ofList (normalizeSlashes id.toList)⟩) := by
  by_cases asked : isScript (normalizeSlashes id.toList)
  · rw [classify_of_isScript asked] at admitted
    exact .inl ⟨_, (Option.some.inj admitted).symm⟩
  · rw [classify_of_not_isScript asked] at admitted
    split at admitted
    · rename_i typed
      exact .inr ⟨typed, (Option.some.inj admitted).symm⟩
    · cases admitted

end Classification

theorem isModule_of_classify {id : String} {root : Path} {a : Admission}
    (admitted : classify id root = some a) : a.logicalPath.IsModule := by
  rcases classify_cases admitted with ⟨lang, rfl⟩ | ⟨typed, rfl⟩
  · exact isModule_script ..
  · rw [logicalPath_standalone]
    exact isModule_resolve typed root

end DeclBundle
