import DeclBundle.Proofs.Module.Canonical
import DeclBundle.Proofs.Module.Identifier
import DeclBundle.Proofs.Path.Joined

namespace DeclBundle

namespace Path

theorem exists_named_append {p : Path} {ending : String} (suffix : ending.toList <:+ p.text.toList)
    (noSlash : '/' ∉ ending.toList) (long : 2 < ending.length) :
    ∃ n above, ∀ more : String, '/' ∉ more.toList →
      (⟨p.text ++ more⟩ : Path).fileName? = some (n ++ more) ∧
      (⟨p.text ++ more⟩ : Path).parent? = some above := by
  obtain ⟨front, stem, clean, whole, joined⟩ := exists_join_of_ending suffix
  obtain ⟨above, parent⟩ := exists_parent?_join_name front
  refine ⟨stem ++ ending, above, fun more noSlash' => ?_⟩
  have longer : 2 < (ending ++ more).length := by
    rw [String.length_append]
    omega
  have name : IsName (stem ++ (ending ++ more)) := isName_append_ending clean (by simp [noSlash, noSlash']) longer
  have written : (⟨p.text ++ more⟩ : Path) = front.join ⟨stem ++ (ending ++ more)⟩ := by
    rw [← joined _ name, whole]
    simp only [String.append_assoc]
  rw [written, String.append_assoc]
  exact ⟨fileName?_join_name front name, parent _ name⟩

end Path

namespace ModuleId

structure IsComponent (p : String) : Prop where
  ending : ".vue".toList <:+ p.toList
  noQuery : '?' ∉ p.toList

structure AsksScript (q : String) : Prop where
  asks : "type=script".toList <:+: q.toList
  line : '\n' ∉ q.toList

def spelled (p : String) : Path := ⟨String.ofList (normalizeSlashes p.toList)⟩

theorem toList_spelled (p : String) : (spelled p).text.toList = normalizeSlashes p.toList :=
  String.toList_ofList

theorem normalizeSlashes_query (p q : String) :
    normalizeSlashes (p ++ "?" ++ q).toList = normalizeSlashes p.toList ++ '?' :: normalizeSlashes q.toList := by
  simp [normalizeSlashes, Text.replaceChar]

theorem IsComponent.suffix_normalizeSlashes {p : String} (component : IsComponent p) :
    ".vue".toList <:+ normalizeSlashes p.toList :=
  (ModuleId.suffix_normalizeSlashes (by decide) (by decide)).mpr component.ending

theorem IsComponent.noQuery_normalizeSlashes {p : String} (component : IsComponent p) :
    '?' ∉ normalizeSlashes p.toList :=
  fun member => component.noQuery (question_mem_normalizeSlashes.mp member)

theorem isScript_query {path : List Char} (component : ".vue".toList <:+ path) (noQuery : '?' ∉ path)
    (query : List Char) : isScript (path ++ '?' :: query) =
      (Text.contains "type=script".toList (query.takeWhile (· != '\n')) || isScript query) := by
  obtain ⟨front, rfl⟩ := component
  induction front with
  | nil => rfl
  | cons c front ih =>
    have none : Text.dropHead? ".vue?".toList (c :: front ++ ".vue".toList ++ '?' :: query) = none := by
      rw [Option.eq_none_iff_forall_ne_some]
      intro rest found
      have whole := congrArg stripQuery (Text.dropHead?_eq_some.mp found)
      rw [stripQuery_append noQuery (.inr ⟨_, rfl⟩)] at whole
      have length := congrArg List.length (whole.trans (stripQuery_script rest))
      simp at length
    have rest : '?' ∉ front ++ ".vue".toList := List.not_mem_of_not_mem_cons noQuery
    rw [List.cons_append, List.cons_append] at none ⊢
    rw [isScript_cons, none, Bool.false_or, ih rest]

def Typed (s : String) : Prop := "lang.ts".toList <:+: s.toList ∨ "lang=ts".toList <:+: s.toList

theorem saysTyped_iff {s : List Char} :
    saysTyped s ↔ "lang.ts".toList <:+: s ∨ "lang=ts".toList <:+: s := by
  simp only [saysTyped, Bool.or_eq_true, Text.contains_iff]

instance (s : String) : Decidable (Typed s) := decidable_of_iff (saysTyped s.toList) saysTyped_iff

theorem saysTyped_append_cons {c : Char} (foreign : c ∉ "lang.=ts".toList) (front back : List Char) :
    saysTyped (front ++ c :: back) = (saysTyped front || saysTyped back) := by
  have dot : c ∉ "lang.ts".toList := fun member => foreign ((by decide : "lang.ts".toList ⊆ _) member)
  have sign : c ∉ "lang=ts".toList := fun member => foreign ((by decide : "lang=ts".toList ⊆ _) member)
  rw [Bool.eq_iff_iff, Bool.or_eq_true, saysTyped_iff, saysTyped_iff, saysTyped_iff,
    Text.infix_append_cons_iff dot, Text.infix_append_cons_iff sign]
  exact or_or_or_comm

theorem AsksScript.contains_line {q : String} (query : AsksScript q) :
    Text.contains "type=script".toList ((normalizeSlashes q.toList).takeWhile (· != '\n')) := by
  have line : ∀ c ∈ normalizeSlashes q.toList, (c != '\n') = true := by
    intro c member
    obtain ⟨d, inside, rfl⟩ := List.mem_map.mp member
    split
    · rfl
    · exact bne_iff_ne.mpr fun same => query.line (same ▸ inside)
  rw [List.takeWhile_eq_self_iff.mpr line, Text.contains_iff]
  exact query.asks.map fun c => if c = '\\' then '/' else c

end ModuleId

open ModuleId (IsComponent AsksScript spelled)

theorem classify_script {p q : String} (component : IsComponent p)
    (asked : ModuleId.isScript (ModuleId.normalizeSlashes (p ++ "?" ++ q).toList)) (root : Path) :
    classify (p ++ "?" ++ q) root = some (.script (root.resolve (spelled p))
      (if ModuleId.saysTyped (ModuleId.normalizeSlashes (p ++ "?" ++ q).toList) then .typeScript
        else .javaScript)) := by
  have cut := ModuleId.stripQuery_append component.noQuery_normalizeSlashes
    (.inr ⟨ModuleId.normalizeSlashes q.toList, rfl⟩)
  rw [← ModuleId.normalizeSlashes_query] at cut
  rw [classify_of_isScript asked, cut]
  rfl

theorem isScript_of_asks {p q : String} (component : IsComponent p) (query : AsksScript q) :
    ModuleId.isScript (ModuleId.normalizeSlashes (p ++ "?" ++ q).toList) := by
  rw [ModuleId.normalizeSlashes_query, ModuleId.isScript_query component.suffix_normalizeSlashes
    component.noQuery_normalizeSlashes, query.contains_line, Bool.true_or]

theorem logicalPath_script_inj {c c' : Path} {lang lang' : ScriptLang}
    (same : (Admission.script c lang).logicalPath = (Admission.script c' lang').logicalPath) :
    c = c' ∧ lang = lang' := by
  have texts := congrArg (fun p : Path => p.text.toList) same
  simp only [Admission.logicalPath, String.append_assoc, String.toList_append (s := c.text),
    String.toList_append (s := c'.text)] at texts
  -- Both endings are equally long, so the paths are cut in the same place.
  have length (lang : ScriptLang) : ("." ++ lang.extension).toList.length = 3 := by
    cases lang <;> decide +kernel
  have other : ("." ++ ScriptLang.typeScript.extension).toList ≠ ("." ++ ScriptLang.javaScript.extension).toList := by
    decide +kernel
  obtain ⟨fronts, extensions⟩ := List.append_inj' texts ((length lang).trans (length lang').symm)
  constructor
  · obtain ⟨text⟩ := c
    obtain ⟨text'⟩ := c'
    exact congrArg Path.mk (String.toList_inj.mp fronts)
  · cases lang with
    | typeScript =>
      cases lang' with
      | typeScript => rfl
      | javaScript => exact absurd extensions other
    | javaScript =>
      cases lang' with
      | typeScript => exact absurd extensions.symm other
      | javaScript => rfl

theorem suffix_resolve_spelled {p : String} (component : IsComponent p) (root : Path) :
    ".vue".toList <:+ (root.resolve (spelled p)).text.toList := by
  apply Path.suffix_normalize _ (by decide) (by decide)
  apply Path.suffix_join
  rw [ModuleId.toList_spelled]
  exact component.suffix_normalizeSlashes

theorem logicalPath_script (c : Path) (lang : ScriptLang) :
    (Admission.script c lang).logicalPath = ⟨c.text ++ ("." ++ lang.extension)⟩ := by
  rw [← String.append_assoc]
  rfl

theorem exists_named_script {c : Path} (component : ".vue".toList <:+ c.text.toList) :
    ∃ n above, c.fileName? = some n ∧ c.parent? = some above ∧ ∀ lang,
      (Admission.script c lang).logicalPath.fileName? = some (n ++ ("." ++ lang.extension)) ∧
      (Admission.script c lang).logicalPath.parent? = some above := by
  obtain ⟨n, above, named⟩ := Path.exists_named_append component (by decide) (by decide)
  have itself := named "" (by decide)
  rw [String.append_empty, String.append_empty] at itself
  refine ⟨n, above, itself.1, itself.2, fun lang => ?_⟩
  rw [logicalPath_script]
  exact named _ (by cases lang <;> decide)

/-- However a component is written, and whatever its query says besides, its script is known in the
directory of the component under the name of the component with one of two endings, and no other component has
a script that is known under a path naming the same. -/
theorem script_beside_component (root : Path) {p q : String} (component : IsComponent p)
    (query : AsksScript q) :
    ∃ admitted, classify (p ++ "?" ++ q) root = some admitted ∧ admitted.kind = .scriptBlock ∧
      (∃ lang, admitted = .script (root.resolve (spelled p)) lang) ∧
      (∃ n above, (root.resolve (spelled p)).fileName? = some n ∧
        (root.resolve (spelled p)).parent? = some above ∧ admitted.logicalPath.parent? = some above ∧
        ∃! ending, ending ∈ [".ts", ".js"] ∧ admitted.logicalPath.fileName? = some (n ++ ending)) ∧
      ∀ p' q' admitted', IsComponent p' → AsksScript q' → classify (p' ++ "?" ++ q') root = some admitted' →
        root.resolve (spelled p') ≠ root.resolve (spelled p) →
          ¬admitted'.logicalPath.same admitted.logicalPath := by
  have classified := classify_script component (isScript_of_asks component query) root
  have canonical := isCanonical_of_classify classified
  generalize (if ModuleId.saysTyped (ModuleId.normalizeSlashes (p ++ "?" ++ q).toList)
    then ScriptLang.typeScript else .javaScript) = lang at classified canonical
  refine ⟨_, classified, rfl, ⟨lang, rfl⟩, ?_, ?_⟩
  · obtain ⟨n, above, file, parent, named⟩ := exists_named_script (suffix_resolve_spelled component root)
    obtain ⟨script, beside⟩ := named lang
    refine ⟨n, above, file, parent, beside, "." ++ lang.extension, ⟨?_, script⟩, ?_⟩
    · cases lang <;> decide
    · intro ending other
      have both := Option.some.inj (other.2.symm.trans script)
      exact (String.append_right_inj n).mp both
  · intro p' q' admitted' component' query' classified' apart same
    rw [(isCanonical_of_classify classified').same_iff canonical] at same
    rw [classify_script component' (isScript_of_asks component' query') root] at classified'
    rw [← Option.some.inj classified'] at same
    exact apart (logicalPath_script_inj same).1

theorem script_beside_component_card :
    IsComponent "src\\..\\lib/Card.vue" ∧ AsksScript "vue&type=script&src=a.ts" ∧
      ∃ admitted, classify ("src\\..\\lib/Card.vue" ++ "?" ++ "vue&type=script&src=a.ts") "/proj" =
          some admitted ∧
        admitted.logicalPath.parent? = some (Path.mk "/proj/lib") ∧
        ∃! ending, ending ∈ [".ts", ".js"] ∧ admitted.logicalPath.fileName? = some ("Card.vue" ++ ending) := by
  have component : IsComponent "src\\..\\lib/Card.vue" :=
    ⟨⟨"src\\..\\lib/Card".toList, by decide⟩, by decide⟩
  have query : AsksScript "vue&type=script&src=a.ts" :=
    ⟨⟨"vue&".toList, "&src=a.ts".toList, by decide⟩, by decide⟩
  refine ⟨component, query, ?_⟩
  obtain ⟨admitted, classified, -, -, ⟨n, above, file, parent, beside, ending⟩, -⟩ :=
    script_beside_component "/proj" component query
  have place : (Path.mk "/proj").resolve (spelled "src\\..\\lib/Card.vue") = Path.mk "/proj/lib/Card.vue" := by
    decide +kernel
  rw [place] at file parent
  have name : (Path.mk "/proj/lib/Card.vue").fileName? = some "Card.vue" := by decide +kernel
  have directory : (Path.mk "/proj/lib/Card.vue").parent? = some (Path.mk "/proj/lib") := by decide +kernel
  obtain rfl := Option.some.inj (name.symm.trans file)
  obtain rfl := Option.some.inj (directory.symm.trans parent)
  exact ⟨admitted, classified, beside, ending⟩

end DeclBundle
