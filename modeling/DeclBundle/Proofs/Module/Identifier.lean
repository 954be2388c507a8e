import DeclBundle.Proofs.Module.Admission
import DeclBundle.Proofs.Text.Search

namespace DeclBundle

namespace ModuleId

def Plain (path : List Char) : Prop := ∀ c ∈ path, c ≠ '?' ∧ c ≠ '\\' ∧ c ≠ '\x00'

instance (path : List Char) : Decidable (Plain path) :=
  decidable_of_iff (path.all fun c => c != '?' && c != '\\' && c != '\x00') (by simp [Plain, and_assoc])

def IsQuery (query : List Char) : Prop := query = [] ∨ ∃ rest, query = '?' :: rest

theorem normalizeSlashes_of_not_mem {s : List Char} (slashed : '\\' ∉ s) : normalizeSlashes s = s := by
  have kept : s.map (fun c => if c = '\\' then '/' else c) = s.map id := by
    apply List.map_congr_left
    intro c member
    rw [if_neg (ne_of_mem_of_not_mem member slashed), id]
  unfold normalizeSlashes Text.replaceChar
  rw [kept, List.map_id]

theorem Plain.slashed {path : List Char} (plain : Plain path) : '\\' ∉ path :=
  fun member => (plain _ member).2.1 rfl

theorem normalizeSlashes_append {path : List Char} (plain : Plain path) (query : List Char) :
    normalizeSlashes (path ++ query) = path ++ normalizeSlashes query := by
  have parts : normalizeSlashes (path ++ query) = normalizeSlashes path ++ normalizeSlashes query :=
    List.map_append
  rw [parts, normalizeSlashes_of_not_mem plain.slashed]

theorem IsQuery.normalizeSlashes {query : List Char} (isQuery : IsQuery query) :
    IsQuery (normalizeSlashes query) := by
  rcases isQuery with rfl | ⟨rest, rfl⟩
  · exact .inl rfl
  · exact .inr ⟨_, rfl⟩

theorem Plain.noQuery {path : List Char} (plain : Plain path) : '?' ∉ path :=
  fun member => (plain _ member).1 rfl

theorem stripQuery_append {path query : List Char} (noQuery : '?' ∉ path) (isQuery : IsQuery query) :
    stripQuery (path ++ query) = path := by
  have own : ∀ c ∈ path, (c != '?') = true := fun c member => bne_iff_ne.mpr fun same => noQuery (same ▸ member)
  unfold stripQuery
  rw [List.takeWhile_append_of_pos own]
  rcases isQuery with rfl | ⟨rest, rfl⟩
  · simp
  · simp

theorem stripQuery_script (rest : List Char) : stripQuery (".vue?".toList ++ rest) = ".vue".toList :=
  stripQuery_append (by decide : '?' ∉ ".vue".toList) (.inr ⟨rest, rfl⟩)

theorem not_isScript {id : List Char} (plain : '?' ∉ id) : isScript id = false := by
  induction id with
  | nil => rfl
  | cons c id ih =>
    have none : Text.dropHead? ".vue?".toList (c :: id) = none := by
      rw [Option.eq_none_iff_forall_ne_some]
      intro rest found
      rw [Text.dropHead?_eq_some.mp found] at plain
      exact plain (by simp)
    unfold isScript
    rw [none, ih (List.not_mem_of_not_mem_cons plain)]
    rfl

theorem isScript_cons (c : Char) (s : List Char) : isScript (c :: s) =
    ((match Text.dropHead? ".vue?".toList (c :: s) with
    | some query => Text.contains "type=script".toList (query.takeWhile (· != '\n'))
    | none => false) || isScript s) := rfl

theorem isScript_append {front query : List Char}
    (asks : Text.contains "type=script".toList (query.takeWhile (· != '\n'))) :
    isScript (front ++ ".vue?".toList ++ query) := by
  induction front with
  | nil =>
    have found : Text.dropHead? ".vue?".toList ('.' :: ("vue?".toList ++ query)) = some query :=
      Text.dropHead?_eq_some.mpr rfl
    change isScript ('.' :: ("vue?".toList ++ query)) = true
    rw [isScript_cons, found]
    dsimp only
    rw [asks, Bool.true_or]
  | cons c front ih =>
    rw [List.cons_append, List.cons_append, isScript_cons, ih, Bool.or_true]

theorem isScript_component {path : List Char} (component : ".vue".toList <:+ path) (more : List Char) :
    isScript (path ++ normalizeSlashes ("?vue&type=script".toList ++ more)) := by
  obtain ⟨front, rfl⟩ := component
  have clean : ∀ c ∈ "vue&type=script".toList, (c != '\n') = true := List.all_eq_true.mp rfl
  have line : ("vue&type=script".toList ++ normalizeSlashes more).takeWhile (· != '\n') =
      "vue&type=script".toList ++ (normalizeSlashes more).takeWhile (· != '\n') :=
    List.takeWhile_append_of_pos clean
  have inner : "type=script".toList <:+: "vue&type=script".toList := ⟨"vue&".toList, [], by decide⟩
  have found : isScript (front ++ ".vue?".toList ++ ("vue&type=script".toList ++ normalizeSlashes more)) := by
    apply isScript_append
    rw [line, Text.contains_iff]
    exact inner.trans (List.prefix_append ..).isInfix
  rw [List.append_assoc] at found ⊢
  exact found

theorem exists_of_isScript {id : List Char} (script : isScript id) :
    ∃ front query, id = front ++ ".vue?".toList ++ query ∧ "type=script".toList <:+: query := by
  induction id with
  | nil => cases script
  | cons c id ih =>
    rw [isScript_cons, Bool.or_eq_true] at script
    rcases script with here | later
    · split at here
      · rename_i query found
        refine ⟨[], query, Text.dropHead?_eq_some.mp found, ?_⟩
        exact (Text.contains_iff.mp here).trans (List.takeWhile_prefix _).isInfix
      · cases here
    · obtain ⟨front, query, whole, asks⟩ := ih later
      exact ⟨c :: front, query, by rw [whole]; rfl, asks⟩

theorem suffix_of_query {file query front rest : List Char} (noQuery : '?' ∉ file)
    (whole : file ++ '?' :: query = front ++ '?' :: rest) : rest <:+ query := by
  rcases List.append_eq_append_iff.mp whole with ⟨more, -, inner⟩ | ⟨more, parts, inner⟩
  · cases more with
    | nil => exact (List.cons.inj inner).2 ▸ List.suffix_rfl
    | cons c more =>
      rw [(List.cons.inj inner).2]
      exact (List.suffix_cons _ _).trans (List.suffix_append ..)
  · cases more with
    | nil => exact (List.cons.inj inner).2 ▸ List.suffix_rfl
    | cons c more =>
      have first : c = '?' := (List.cons.inj inner).1.symm
      exact absurd (by simp [parts, first]) noQuery

theorem not_isScript_of_query {file query : List Char} (noQuery : '?' ∉ file)
    (silent : ¬"type=script".toList <:+: query) : isScript (file ++ '?' :: query) = false := by
  rw [← Bool.not_eq_true]
  intro script
  obtain ⟨front, rest, whole, asks⟩ := exists_of_isScript script
  have cut : file ++ '?' :: query = (front ++ ".vue".toList) ++ '?' :: rest := by
    rw [whole]
    simp
  have behind : rest <:+ query := suffix_of_query noQuery cut
  exact silent (asks.trans behind.isInfix)

theorem isTypeScript_append_cons {c : Char} (foreign : c ∉ ".tsx".toList) (front back : List Char) :
    isTypeScript (front ++ c :: back) = isTypeScript back := by
  have shorter : c ∉ ".ts".toList := fun member => foreign ((by decide : ".ts".toList ⊆ ".tsx".toList) member)
  unfold isTypeScript
  rw [Bool.eq_iff_iff]
  simp only [Bool.or_eq_true, List.isSuffixOf_iff_suffix]
  rw [Text.suffix_append_cons_iff shorter, Text.suffix_append_cons_iff foreign]

theorem normalizeSlashes_of_clean {s : List Char} (clean : '/' ∉ normalizeSlashes s) :
    normalizeSlashes s = s := by
  have kept : ∀ c ∈ s, (if c = '\\' then '/' else c) = c := by
    intro c member
    split
    · rename_i back
      have slash : '/' ∈ normalizeSlashes s := List.mem_map.mpr ⟨c, member, if_pos back⟩
      exact absurd slash clean
    · rfl
  exact (List.map_congr_left kept).trans (List.map_id' s)

theorem infix_of_normalizeSlashes {inner s : List Char} (clean : '/' ∉ inner)
    (found : inner <:+: normalizeSlashes s) : inner <:+: s := by
  obtain ⟨own, part, same⟩ := List.infix_map_iff.mp found
  change inner = normalizeSlashes own at same
  rw [same] at clean ⊢
  rwa [normalizeSlashes_of_clean clean]

theorem suffix_normalizeSlashes {ending s : List Char} (clean : '/' ∉ ending)
    (kept : normalizeSlashes ending = ending) : ending <:+ normalizeSlashes s ↔ ending <:+ s := by
  constructor
  · intro suffix
    obtain ⟨own, part, same⟩ := List.suffix_map_iff.mp suffix
    change ending = normalizeSlashes own at same
    rw [same] at clean ⊢
    rwa [normalizeSlashes_of_clean clean]
  · intro suffix
    rw [← kept]
    exact suffix.map _

theorem isTypeScript_normalizeSlashes (s : List Char) :
    isTypeScript (normalizeSlashes s) = isTypeScript s := by
  unfold isTypeScript
  rw [Bool.eq_iff_iff]
  simp only [Bool.or_eq_true, List.isSuffixOf_iff_suffix]
  rw [suffix_normalizeSlashes (by decide) (by decide), suffix_normalizeSlashes (by decide) (by decide)]

theorem question_mem_normalizeSlashes {s : List Char} : '?' ∈ normalizeSlashes s ↔ '?' ∈ s := by
  constructor
  · intro member
    obtain ⟨c, inside, same⟩ := List.mem_map.mp member
    split at same
    · cases same
    · exact same ▸ inside
  · intro member
    exact List.mem_map.mpr ⟨'?', member, by decide⟩

def file (id : String) : Path := ⟨String.ofList (stripQuery (normalizeSlashes id.toList))⟩

end ModuleId

namespace Path

theorem exists_splitOn_append (s : List Char) :
    ∃ front last, ∀ t : List Char,
      (s ++ t).splitOn '/' = front ++ (t.splitOn '/').modifyHead (last ++ ·) := by
  induction s with
  | nil =>
    refine ⟨[], [], fun t => ?_⟩
    obtain ⟨first, rest, parts⟩ := splitOn_eq_cons t
    rw [List.nil_append, parts]
    rfl
  | cons c s ih =>
    obtain ⟨front, last, ih⟩ := ih
    by_cases slash : c = '/'
    · exact ⟨[] :: front, last, fun t => by rw [List.cons_append, splitOn_cons, if_pos slash, ih]; rfl⟩
    · cases front with
      | nil =>
        refine ⟨[], c :: last, fun t => ?_⟩
        obtain ⟨first, rest, parts⟩ := splitOn_eq_cons t
        rw [List.cons_append, splitOn_cons, if_neg slash, ih, parts]
        rfl
      | cons piece front =>
        exact ⟨(c :: piece) :: front, last, fun t => by
          rw [List.cons_append, splitOn_cons, if_neg slash, ih]; rfl⟩

theorem exists_names {ps : List (List Char)} (level : ['.', '.'] ∉ ps) :
    ∃ ns : List String, ps.filterMap stepOf = ns.map .name := by
  induction ps with
  | nil => exact ⟨[], rfl⟩
  | cons piece ps ih =>
    obtain ⟨ns, rest⟩ := ih (List.not_mem_of_not_mem_cons level)
    have notUp : piece ≠ ['.', '.'] := fun up => level (by simp [up])
    by_cases void : isVoid piece
    · exact ⟨ns, by rw [List.filterMap_cons_none (by simp [stepOf, void]), rest]⟩
    · refine ⟨String.ofList piece :: ns, ?_⟩
      rw [List.filterMap_cons_some (b := .name (String.ofList piece)) (by simp [stepOf, void, notUp]), rest]
      rfl

theorem stepOf_of_question {piece : List Char} (mark : '?' ∈ piece) :
    stepOf piece = some (.name (String.ofList piece)) := by
  have void : isVoid piece = false := by
    rw [← Bool.not_eq_true]
    intro void
    simp only [isVoid, Bool.or_eq_true, decide_eq_true_eq] at void
    rcases void with rfl | rfl
    · cases mark
    · simp at mark
  have notUp : piece ≠ ['.', '.'] := fun up => by simp [up] at mark
  simp [stepOf, void, notUp]

theorem descend_ne_walk (l : Location) {n : String} {piece : List Char} (other : n ≠ String.ofList piece)
    (ns : List String) : l.descend (n :: ns) ≠ l.walk ([piece].filterMap stepOf) := by
  intro same
  by_cases void : isVoid piece
  · rw [List.filterMap_cons_none (by simp [stepOf, void]), List.filterMap_nil] at same
    have names := congrArg (·.names.length) same
    simp [Location.walk] at names
  · by_cases up : piece = ['.', '.']
    · rw [List.filterMap_cons_some (b := .parent) (by simp [stepOf, up, isVoid]), List.filterMap_nil] at same
      have names := congrArg (·.names.length) same
      simp only [Location.walk, List.foldl_cons, List.foldl_nil, Location.go] at names
      split at names
      · simp at names
        omega
      · split at names <;> simp at names
    · rw [List.filterMap_cons_some (b := .name (String.ofList piece)) (by simp [stepOf, void, up]),
        List.filterMap_nil] at same
      have names := Location.descend_inj.mp (same.trans (Location.walk_names l [String.ofList piece]))
      exact other (List.cons.inj names).1

theorem location_ne_of_query {p q : Path} {query : List Char}
    (longer : q.text.toList = p.text.toList ++ '?' :: query) (level : ['.', '.'] ∉ query.splitOn '/') :
    q.location ≠ p.location := by
  obtain ⟨front, last, split⟩ := exists_splitOn_append p.text.toList
  obtain ⟨first, rest, parts⟩ := splitOn_eq_cons query
  have own : p.pieces = front ++ [last] := by
    have whole := split []
    rw [List.append_nil] at whole
    rw [pieces, whole]
    simp
  have more : q.pieces = front ++ ((last ++ '?' :: first) :: rest) := by
    have asked : ('?' :: query).splitOn '/' = ('?' :: first) :: rest := by
      rw [splitOn_cons, if_neg (by decide), parts]
      rfl
    rw [pieces, longer, split, asked]
    rfl
  -- The pieces part at the last one of `p`, which the query makes longer.
  have below : ['.', '.'] ∉ rest := fun member => level (by simp [parts, member])
  obtain ⟨ns, names⟩ := exists_names below
  have rooted : q.isRooted = p.isRooted := by
    unfold isRooted
    rw [longer]
    cases p.text.toList <;> rfl
  have other : String.ofList (last ++ '?' :: first) ≠ String.ofList last := by
    intro same
    have shorter := congrArg String.length same
    simp at shorter
  rw [location_eq, location_eq p, rooted, own, more, List.filterMap_append, List.filterMap_append,
    Location.walk_append, Location.walk_append,
    List.filterMap_cons_some (stepOf_of_question (by simp)), names, ← List.map_cons, Location.walk_names]
  exact descend_ne_walk _ other ns

theorem resolve_ne_of_query {p q : Path} {query : List Char}
    (longer : q.text.toList = p.text.toList ++ '?' :: query) (level : ['.', '.'] ∉ query.splitOn '/')
    (root : Path) : root.resolve q ≠ root.resolve p := by
  have rooted : q.isRooted = p.isRooted := by
    unfold isRooted
    rw [longer]
    cases p.text.toList <;> rfl
  have joined : (root.join q).text.toList = (root.join p).text.toList ++ '?' :: query := by
    by_cases absolute : p.isRooted
    · rw [join_of_rooted root (rooted.trans absolute), join_of_rooted root absolute, longer]
    · by_cases empty : root.text = ""
      · rw [join_of_empty empty, join_of_empty empty, longer]
      · obtain ⟨front, -, whole⟩ := exists_join_eq empty
        rw [whole q (rooted ▸ absolute), whole p absolute]
        simp [longer]
  intro same
  exact location_ne_of_query joined level (normalize_eq_iff.mp same)

end Path

open ModuleId (normalizeSlashes stripQuery isTypeScript)

/-- Without a query, an identifier admits the plain source that it names, and only if the file ends as typed
sources do. With a query, the ending is looked for in the query, so that what is no script is admitted by
the way its query ends, and then under a path that is not the one of the file. -/
theorem standalone_by_file (id : String) (root : Path) :
    ('?' ∉ id.toList → ∀ p, classify id root = some (.standalone p) ↔
      isTypeScript (ModuleId.file id).text.toList ∧ p = root.resolve (ModuleId.file id)) ∧
    ∀ file query, id.toList = file ++ '?' :: query → '?' ∉ file →
      (¬"type=script".toList <:+: query → (classify id root = none ↔ ¬isTypeScript query)) ∧
      ∀ p, classify id root = some (.standalone p) → ['.', '.'] ∉ (normalizeSlashes query).splitOn '/' →
        p ≠ root.resolve (ModuleId.file id) := by
  constructor
  · intro noQuery p
    have plain : '?' ∉ normalizeSlashes id.toList := fun member =>
      noQuery (ModuleId.question_mem_normalizeSlashes.mp member)
    have whole : ModuleId.file id = ⟨String.ofList (normalizeSlashes id.toList)⟩ := by
      have cut := ModuleId.stripQuery_append plain (.inl rfl)
      rw [List.append_nil] at cut
      rw [ModuleId.file, cut]
    rw [classify_of_not_isScript (ne_true_of_eq_false (ModuleId.not_isScript plain)), whole, String.toList_ofList]
    split
    · rename_i typed
      simp [typed, eq_comm]
    · rename_i untyped
      simp [untyped]
  · intro file query parts noQuery
    have slashed : normalizeSlashes id.toList = normalizeSlashes file ++ '?' :: normalizeSlashes query := by
      rw [parts]
      exact List.map_append
    have plain : '?' ∉ normalizeSlashes file := fun member =>
      noQuery (ModuleId.question_mem_normalizeSlashes.mp member)
    constructor
    · intro silent
      have unasked : ModuleId.isScript (normalizeSlashes file ++ '?' :: normalizeSlashes query) = false :=
        ModuleId.not_isScript_of_query plain fun found =>
          silent (ModuleId.infix_of_normalizeSlashes (by decide) found)
      rw [← slashed] at unasked
      rw [classify_of_not_isScript (ne_true_of_eq_false unasked), slashed,
        ModuleId.isTypeScript_append_cons (by decide), ModuleId.isTypeScript_normalizeSlashes]
      split
      · rename_i typed
        simp [typed]
      · rename_i untyped
        simp [untyped]
    · intro p admitted level
      obtain ⟨lang, script⟩ | ⟨-, taken⟩ := classify_cases admitted
      · cases script
      have cut : (ModuleId.file id).text.toList = normalizeSlashes file := by
        rw [ModuleId.file, String.toList_ofList, slashed, ModuleId.stripQuery_append plain (.inr ⟨_, rfl⟩)]
      rw [Admission.standalone.inj taken]
      apply Path.resolve_ne_of_query _ level
      rw [String.toList_ofList, cut, slashed]

theorem standalone_by_file_widget :
    classify "src/Widget.tsx" "/proj" = some (.standalone "/proj/src/Widget.tsx") ∧
      classify "/proj/src/Widget.vue?vue&type=style&index=0&lang.css" "/proj" = none ∧
      (Path.mk "/proj/src/Widget.vue?vue&type=template&lang.ts") ≠
        (Path.mk "/proj").resolve (ModuleId.file "/proj/src/Widget.vue?vue&type=template&lang.ts") := by
  have source := standalone_by_file "src/Widget.tsx" "/proj"
  have style := standalone_by_file "/proj/src/Widget.vue?vue&type=style&index=0&lang.css" "/proj"
  have template := standalone_by_file "/proj/src/Widget.vue?vue&type=template&lang.ts" "/proj"
  refine ⟨(source.1 (by decide) _).mpr ⟨by decide +kernel, by decide +kernel⟩, ?_, ?_⟩
  · exact ((style.2 "/proj/src/Widget.vue".toList "vue&type=style&index=0&lang.css".toList (by decide)
      (by decide)).1 (by rw [← Text.contains_iff]; decide)).mpr (by decide)
  · exact (template.2 "/proj/src/Widget.vue".toList "vue&type=template&lang.ts".toList (by decide)
      (by decide)).2 _ (by decide +kernel) (by decide)

/-- The template of a component is admitted as a plain source, under a path that no file has. -/
theorem standalone_of_template :
    classify "/proj/src/Widget.vue?vue&type=template&id=7a7a37b1&lang.ts" "/proj" =
        some (.standalone "/proj/src/Widget.vue?vue&type=template&id=7a7a37b1&lang.ts") ∧
      ¬isTypeScript (ModuleId.file "/proj/src/Widget.vue?vue&type=template&id=7a7a37b1&lang.ts").text.toList ∧
      (Path.mk "/proj/src/Widget.vue?vue&type=template&id=7a7a37b1&lang.ts") ≠
        (Path.mk "/proj").resolve
          (ModuleId.file "/proj/src/Widget.vue?vue&type=template&id=7a7a37b1&lang.ts") := by
  refine ⟨?_, ?_, ?_⟩ <;> decide +kernel

end DeclBundle
