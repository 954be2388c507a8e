import DeclBundle.Proofs.Module.Component

namespace DeclBundle

namespace ModuleId

theorem Plain.of_isPrefix {front path : List Char} (plain : Plain path) (start : front <+: path) :
    Plain front := fun c member => plain c (start.subset member)

theorem stripQuery_append_slash {front : List Char} (noQuery : '?' ∉ front) (s : List Char) :
    stripQuery (front ++ '/' :: s) = front ++ '/' :: stripQuery s := by
  have own : ∀ c ∈ front, (c != '?') = true := by
    intro c member
    rw [bne_iff_ne]
    rintro rfl
    exact noQuery member
  unfold stripQuery
  rw [List.takeWhile_append_of_pos own]
  rfl

theorem isScript_append_slash {front : List Char} (noQuery : '?' ∉ front) (s : List Char) :
    isScript (front ++ '/' :: s) = isScript s := by
  induction front with
  | nil => rfl
  | cons c front ih =>
    have none : Text.dropHead? ".vue?".toList (c :: front ++ '/' :: s) = none := by
      rw [Option.eq_none_iff_forall_ne_some]
      intro rest found
      have whole := congrArg stripQuery (Text.dropHead?_eq_some.mp found)
      rw [stripQuery_append_slash noQuery] at whole
      have slash : '/' ∈ ".vue".toList := by
        rw [← whole.trans (stripQuery_script rest)]
        simp
      exact absurd slash (by decide)
    have rest : '?' ∉ front := List.not_mem_of_not_mem_cons noQuery
    rw [List.cons_append] at none ⊢
    rw [isScript_cons, none, Bool.false_or, ih rest]

end ModuleId

open ModuleId (Plain Typed normalizeSlashes spelled)

namespace Path

theorem resolve_join {root : Path} (rooted : root.isRooted) (p : Path) :
    root.resolve (root.join p) = root.resolve p := by
  have top : (root.join p).isRooted := by
    by_cases own : p.isRooted
    · rwa [join_of_rooted root own]
    · rwa [isRooted_join own (text_ne_of_rooted rooted)]
  unfold resolve
  rw [join_of_rooted root top]

end Path

theorem relative_file {id : String} (relative : ¬(spelled id).isRooted) :
    ¬(ModuleId.file id).isRooted := by
  intro slash
  obtain ⟨rest, text⟩ := List.head?_eq_some_iff.mp (of_decide_eq_true slash)
  rw [ModuleId.file, String.toList_ofList] at text
  have start : ModuleId.stripQuery (normalizeSlashes id.toList) <+: normalizeSlashes id.toList :=
    List.takeWhile_prefix _
  obtain ⟨more, whole⟩ := start
  apply relative
  rw [Path.isRooted, ModuleId.toList_spelled, ← whole, text]
  rfl

theorem relative_of_spelled {id : String} (relative : ¬(spelled id).isRooted) :
    ¬(Path.mk id).isRooted := by
  intro slash
  obtain ⟨rest, text⟩ := List.head?_eq_some_iff.mp (of_decide_eq_true slash)
  apply relative
  rw [Path.isRooted, ModuleId.toList_spelled, show id.toList = '/' :: rest from text]
  rfl

/-- An identifier below a root, and what it is behind when it is spelled from the root on. -/
structure Below (root : Path) (id : String) (front : List Char) : Prop where
  above : root.text.toList = front ∨ root.text.toList = front ++ ['/']
  plain : Plain front
  whole : (root.join ⟨id⟩).text.toList = front ++ '/' :: id.toList
  slashed : normalizeSlashes (root.join ⟨id⟩).text.toList = front ++ '/' :: normalizeSlashes id.toList
  file : ModuleId.file (root.join ⟨id⟩).text = ⟨String.ofList (front ++ '/' :: (ModuleId.file id).text.toList)⟩
  resolve : root.resolve ⟨String.ofList (front ++ '/' :: normalizeSlashes id.toList)⟩ =
    root.resolve (spelled id)
  resolve_file : root.resolve (ModuleId.file (root.join ⟨id⟩).text) = root.resolve (ModuleId.file id)

theorem exists_below {root : Path} (rooted : root.isRooted) (plain : Plain root.text.toList) {id : String}
    (relative : ¬(spelled id).isRooted) : ∃ front, Below root id front := by
  obtain ⟨front, above, joined⟩ := Path.exists_join_eq (Path.text_ne_of_rooted rooted)
  have above' : root.text.toList = front.toList ∨ root.text.toList = front.toList ++ ['/'] := by
    rcases above with text | text
    · exact .inl (by rw [text])
    · exact .inr (by simp [text])
  have clean : Plain front.toList := by
    rcases above' with text | text
    · exact text ▸ plain
    · exact (text ▸ plain).of_isPrefix (List.prefix_append ..)
  have whole : (root.join ⟨id⟩).text.toList = front.toList ++ '/' :: id.toList := by
    rw [joined _ (relative_of_spelled relative)]
    simp
  have slashed : normalizeSlashes (root.join ⟨id⟩).text.toList =
      front.toList ++ '/' :: normalizeSlashes id.toList := by
    rw [whole, ModuleId.normalizeSlashes_append clean]
    rfl
  have written (t : List Char) (free : ¬(Path.mk (String.ofList t)).isRooted) :
      root.join ⟨String.ofList t⟩ = ⟨String.ofList (front.toList ++ '/' :: t)⟩ := by
    rw [joined _ free, Path.mk.injEq, ← String.toList_inj]
    simp
  have file : ModuleId.file (root.join ⟨id⟩).text =
      ⟨String.ofList (front.toList ++ '/' :: (ModuleId.file id).text.toList)⟩ := by
    unfold ModuleId.file
    rw [slashed, ModuleId.stripQuery_append_slash clean.noQuery, String.toList_ofList]
  refine ⟨front.toList, above', clean, whole, slashed, file, ?_, ?_⟩
  · rw [← written _ relative, Path.resolve_join rooted]
    rfl
  · have free : ¬(Path.mk (String.ofList (ModuleId.file id).text.toList)).isRooted := by
      rw [String.ofList_toList]
      exact relative_file relative
    rw [file, ← written _ free, String.ofList_toList, Path.resolve_join rooted]

namespace Below

variable {root : Path} {id : String} {front : List Char} (below : Below root id front)

include below

theorem toList_file : (ModuleId.file (root.join ⟨id⟩).text).text.toList =
    front ++ '/' :: (ModuleId.file id).text.toList := by
  rw [below.file]
  exact String.toList_ofList

theorem mem_virtual_iff : '\x00' ∈ (root.join ⟨id⟩).text.toList ↔ '\x00' ∈ id.toList := by
  rw [below.whole, List.mem_append, List.mem_cons]
  constructor
  · intro member
    rcases member with inside | slash | behind
    · exact absurd rfl (below.plain _ inside).2.2
    · exact absurd slash (by decide)
    · exact behind
  · exact fun member => .inr (.inr member)

theorem infix_installed_iff (apart : "node_modules".toList ∉ root.pieces) (s : List Char) :
    "/node_modules/".toList <:+: '/' :: (front ++ '/' :: s) ↔ "/node_modules/".toList <:+: '/' :: s := by
  have above : "node_modules".toList ∉ front.splitOn '/' := by
    intro member
    apply apart
    rcases below.above with text | text
    · rwa [Path.pieces, text]
    · rw [Path.pieces, text, List.splitOn_append_cons_self]
      exact List.mem_append_left _ member
  have directory (t : List Char) : "/node_modules/".toList <:+: '/' :: t ↔
      "node_modules".toList ∈ (t.splitOn '/').dropLast :=
    (Path.mem_dropLast_splitOn_iff (n := "node_modules".toList) (by decide)).symm
  rw [directory, directory, List.splitOn_append_cons_self,
    List.dropLast_append_of_ne_nil (List.splitOn_ne_nil '/' s), List.mem_append, or_iff_right above]

/-- Below a directory that says nothing of a language, it does not matter for what an identifier admits
whether it is spelled from the root on. -/
theorem classify_join (untyped : ¬Typed root.text) :
    classify (root.join ⟨id⟩).text root = classify id root := by
  have start : front <+: root.text.toList := by
    rcases below.above with text | text
    · exact text ▸ List.prefix_rfl
    · exact text ▸ List.prefix_append ..
  have silent : ModuleId.saysTyped front = false := by
    rw [← Bool.not_eq_true, ModuleId.saysTyped_iff]
    intro typed
    exact untyped (typed.imp (·.trans start.isInfix) (·.trans start.isInfix))
  have noQuery := below.plain.noQuery
  have resolved := below.resolve_file
  unfold ModuleId.file at resolved
  have asks : ModuleId.isScript (normalizeSlashes (root.join ⟨id⟩).text.toList) =
      ModuleId.isScript (normalizeSlashes id.toList) := by
    rw [below.slashed, ModuleId.isScript_append_slash noQuery]
  by_cases asked : ModuleId.isScript (normalizeSlashes id.toList)
  · rw [classify_of_isScript (asks.trans asked), classify_of_isScript asked, resolved, below.slashed,
      ModuleId.saysTyped_append_cons (by decide), silent, Bool.false_or]
  · rw [classify_of_not_isScript (asks ▸ asked), classify_of_not_isScript asked, below.slashed,
      ModuleId.isTypeScript_append_cons (by decide), below.resolve]
    rfl

end Below

end DeclBundle
