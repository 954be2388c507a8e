import DeclBundle.Engine.Staging
import DeclBundle.Proofs.Path.Ancestor
import DeclBundle.Proofs.Path.Joined

namespace DeclBundle

namespace Path

theorem filterMap_dropSteps (count : Nat) (ps : List (List Char)) :
    (dropSteps count ps).filterMap stepOf = (ps.filterMap stepOf).drop count := by
  induction ps generalizing count with
  | nil => simp [dropSteps]
  | cons piece ps ih =>
    unfold dropSteps
    split
    · rename_i void
      rw [ih, List.filterMap_cons_none (by simp [stepOf, void])]
    · rename_i notVoid
      obtain ⟨step, same⟩ := exists_stepOf (Bool.not_eq_true _ ▸ notVoid)
      cases count with
      | zero => rfl
      | succ count => rw [ih, List.filterMap_cons_some same, List.drop_succ_cons]

theorem dropSteps_suffix (count : Nat) (ps : List (List Char)) : dropSteps count ps <:+ ps := by
  induction ps generalizing count with
  | nil => simp [dropSteps]
  | cons piece ps ih =>
    unfold dropSteps
    split
    · exact (ih count).trans (List.suffix_cons ..)
    · cases count with
      | zero => exact List.suffix_rfl
      | succ count => exact (ih count).trans (List.suffix_cons ..)

theorem head?_dropSteps (count : Nat) (ps : List (List Char)) :
    ∀ first ∈ (dropSteps count ps).head?, isVoid first = false := by
  induction ps generalizing count with
  | nil => simp [dropSteps]
  | cons piece ps ih =>
    unfold dropSteps
    split
    · exact ih count
    · rename_i notVoid
      cases count with
      | zero => simpa using notVoid
      | succ count => exact ih count

theorem noSlash_of_mem_split {p : Path} {piece : List Char} (member : piece ∈ p.split.2) :
    '/' ∉ piece := by
  rw [split_eq] at member
  apply noSlash_of_mem_pieces (p := p)
  unfold splitPieces at member
  split at member <;> simp_all

end Path

namespace Staging

def overlayNames (root p : Path) : List String :=
  if root.location.names <+: p.location.names then p.location.names.drop root.location.names.length
  else externalDirectory.text :: p.location.names

theorem isName_externalDirectory : IsName externalDirectory.text := by decide

theorem relative_ofPieces {ps : List (List Char)} (clean : ∀ piece ∈ ps, '/' ∉ piece)
    (first : ∀ piece ∈ ps.head?, Path.isVoid piece = false) :
    ¬(Path.ofPieces ps).isRooted ∧ (Path.ofPieces ps).pieces.filterMap Path.stepOf =
      ps.filterMap Path.stepOf := by
  cases ps with
  | nil => exact ⟨by decide, by decide⟩
  | cons piece ps =>
    have notVoid := first piece rfl
    rw [Path.isRooted_iff, Path.pieces_ofPieces (by simp) clean, Path.splitPieces_of_first notVoid]
    simp

theorem relative_inside {root p : Path} (rootNormal : root.IsNormal) (normal : p.IsNormal)
    {ns : List String} (place : p.location.names = root.location.names ++ ns) :
    ¬(relative root p).isRooted ∧
      (relative root p).pieces.filterMap Path.stepOf = ns.map .name := by
  have above : root.steps.isPrefixOf p.steps := by
    rw [rootNormal.steps_eq_names, normal.steps_eq_names, place]
    simp
  have below : relative root p = Path.ofPieces
      (Path.trimPieces (Path.dropSteps root.location.names.length p.split.2)) := by
    have anchor : p.split.1 = .rooted := by
      rw [Path.split_eq]
      exact (Path.isRooted_iff p).mp normal.rooted
    have count : root.steps.length = root.location.names.length + 1 := by
      simp [rootNormal.steps_eq_names]
    unfold relative Path.below?
    simp only [above, count, anchor, Path.Anchor.steps]
    simp [Path.Anchor.write, Path.ofPieces]
  -- Of the steps behind the root, those that the path shares with it are dropped.
  have inner : p.split.2.filterMap Path.stepOf = (root.location.names ++ ns).map .name := by
    have steps := normal.steps_eq_names
    rw [Path.steps_eq, (Path.isRooted_iff p).mp normal.rooted, place] at steps
    rw [Path.split_eq, Path.filterMap_splitPieces]
    exact List.cons.inj steps |>.2
  have front := Path.trimPieces_isPrefix (Path.dropSteps root.location.names.length p.split.2)
  have clean : ∀ piece ∈ Path.trimPieces (Path.dropSteps root.location.names.length p.split.2),
      '/' ∉ piece := fun piece member =>
    Path.noSlash_of_mem_split ((Path.dropSteps_suffix ..).subset (front.subset member))
  have first : ∀ piece ∈
      (Path.trimPieces (Path.dropSteps root.location.names.length p.split.2)).head?,
      Path.isVoid piece = false := by
    intro piece member
    apply Path.head?_dropSteps root.location.names.length p.split.2
    obtain ⟨rest, whole⟩ := front
    rw [← whole, List.head?_append, Option.mem_def.mp member]
    rfl
  obtain ⟨relative, steps⟩ := relative_ofPieces clean first
  rw [below]
  refine ⟨relative, ?_⟩
  rw [steps, Path.filterMap_trimPieces, Path.filterMap_dropSteps, inner, List.map_append]
  exact List.drop_left' (by simp)

theorem relative_apart {root p : Path} (normal : p.IsNormal)
    (apart : root.steps.isPrefixOf p.steps = false) :
    relative root p = externalDirectory.enter p.location.names := by
  have none : root.below? p = Option.none := by
    unfold Path.below?
    simp [apart]
  unfold relative
  simp only [none]
  rw [normal.steps_eq_names, List.foldl_cons, List.foldl_map]
  rfl

theorem relative_outside {root p : Path} (rootNormal : root.IsNormal) (normal : p.IsNormal)
    (outside : ¬root.location.names <+: p.location.names) :
    relative root p = externalDirectory.enter p.location.names := by
  apply relative_apart normal
  rw [rootNormal.steps_eq_names, normal.steps_eq_names, ← Bool.not_eq_true,
    List.isPrefixOf_iff_prefix, List.cons_prefix_cons]
  rintro ⟨-, ns, whole⟩
  obtain ⟨ms, rest, names, first, -⟩ := List.map_eq_append_iff.mp whole.symm
  exact outside ⟨rest, by rw [names, Location.map_name_inj.mp first]⟩

theorem steps_external {ns : List String} (named : ∀ n ∈ ns, IsName n) :
    ¬(externalDirectory.enter ns).isRooted ∧ (externalDirectory.enter ns).pieces.filterMap Path.stepOf =
      (externalDirectory.text :: ns).map .name := by
  have tidy : externalDirectory.Tidy :=
    ⟨[], externalDirectory.text.toList, Path.pieces_ofName isName_externalDirectory,
      Path.isVoid_ofName isName_externalDirectory⟩
  refine ⟨by rw [Path.isRooted_enter named]; decide, ?_⟩
  have proper : ∀ c ∈ ns.map Step.name, c.Proper := by
    intro c member
    obtain ⟨n, inside, rfl⟩ := List.mem_map.mp member
    exact named n inside
  have own : externalDirectory.pieces.filterMap Path.stepOf = [.name externalDirectory.text] := by
    decide
  have texts := Path.filterMap_stepOf_texts proper
  rw [List.map_map] at texts
  rw [Path.pieces_enter tidy named, List.filterMap_append, own]
  exact congrArg (Step.name externalDirectory.text :: ·) texts

theorem relative_spec {root p : Path} (rootNormal : root.IsNormal) (normal : p.IsNormal) :
    ¬(relative root p).isRooted ∧
      (relative root p).pieces.filterMap Path.stepOf = (overlayNames root p).map .name := by
  unfold overlayNames
  split
  · rename_i inside
    obtain ⟨ns, names⟩ := inside
    have rest : p.location.names.drop root.location.names.length = ns := by rw [← names, List.drop_left]
    rw [rest]
    exact relative_inside rootNormal normal names.symm
  · rename_i outside
    rw [relative_outside rootNormal normal outside]
    exact steps_external p.location_sound.named

theorem exists_names_relative {root p : Path} (rooted : root.isRooted) (normal : p.IsNormal) :
    ∃ ns : List String, ¬(relative root p).isRooted ∧
      (relative root p).pieces.filterMap Path.stepOf = ns.map .name := by
  by_cases above : root.steps.isPrefixOf p.steps
  · -- Only a root that is itself normal is above a normal path.
    obtain ⟨cs, whole⟩ := List.isPrefixOf_iff_prefix.mp above
    have top : root.steps = .root :: root.pieces.filterMap Path.stepOf := by
      rw [Path.steps_eq, (Path.isRooted_iff root).mp rooted]
      rfl
    rw [normal.steps_eq_names, top, List.cons_append] at whole
    obtain ⟨ms, rest, -, first, -⟩ := List.map_eq_append_iff.mp (List.cons.inj whole).2.symm
    rw [← first] at top
    exact ⟨_, relative_spec (Path.IsNormal.of_steps rooted top).1 normal⟩
  · rw [relative_apart normal (Bool.not_eq_true _ ▸ above)]
    exact ⟨_, steps_external p.location_sound.named⟩

/-- Two sources share a place in the overlay when they have the same names there. -/
theorem same_staged_iff {root overlay p q : Path} (rootNormal : root.IsNormal) (rooted : overlay.isRooted)
    (normal : p.IsNormal) (normal' : q.IsNormal) :
    (overlay.join (relative root p)).same (overlay.join (relative root q)) ↔
      overlayNames root p = overlayNames root q := by
  obtain ⟨relative, steps⟩ := relative_spec rootNormal normal
  obtain ⟨relative', steps'⟩ := relative_spec rootNormal normal'
  rw [Path.same_iff, Path.steps_join rooted relative, Path.steps_join rooted relative', steps, steps',
    List.append_cancel_left_eq, Location.map_name_inj]

theorem fileName?_of_pieces {p : Path} {cs : List Step} {n : String}
    (last : p.pieces.filterMap Path.stepOf = cs ++ [.name n]) : p.fileName? = some n := by
  apply Path.fileName?_eq_some_iff.mpr
  exact ⟨(Path.splitPieces p.pieces).1.steps ++ cs, by rw [Path.steps_eq, last, List.append_assoc]⟩

theorem fileName?_of_isNormal {p : Path} (normal : p.IsNormal) :
    p.fileName? = p.location.names.getLast? := by
  unfold Path.fileName?
  rw [normal.steps_eq_names]
  rcases List.eq_nil_or_concat p.location.names with none | ⟨ns, n, some⟩
  · simp [none]
  · rw [some, List.concat_eq_append, List.map_append, ← List.cons_append, List.map_singleton,
      List.getLast?_concat, List.getLast?_concat]

theorem fileName?_join_relative {root p overlay : Path} (rootNormal : root.IsNormal)
    (normal : p.IsNormal) (tidy : overlay.Tidy) (some : overlayNames root p ≠ []) :
    (overlay.join (relative root p)).fileName? = (overlayNames root p).getLast? := by
  obtain ⟨relative, steps⟩ := relative_spec rootNormal normal
  obtain ⟨ns, n, whole⟩ : ∃ ns n, overlayNames root p = ns ++ [n] := by
    rcases List.eq_nil_or_concat (overlayNames root p) with none | ⟨ns, n, last⟩
    · exact absurd none some
    · exact ⟨ns, n, by rw [last, List.concat_eq_append]⟩
  rw [whole, List.getLast?_concat]
  have last : (overlay.join (Staging.relative root p)).pieces.filterMap Path.stepOf =
      overlay.pieces.filterMap Path.stepOf ++ ns.map .name ++ [.name n] := by
    rw [Path.pieces_join tidy relative, List.filterMap_append, steps, whole]
    simp
  exact fileName?_of_pieces last

theorem declarationName?_compiledPath {root p overlay : Path} (rootNormal : root.IsNormal)
    (normal : p.IsNormal) (tidy : overlay.Tidy) (some : overlayNames root p ≠ []) :
    (overlay.join (relative root p)).fileName?.bind declarationName? =
      p.fileName?.bind declarationName? := by
  rw [fileName?_join_relative rootNormal normal tidy some, fileName?_of_isNormal normal]
  unfold overlayNames at some ⊢
  split at some
  · rename_i inside
    obtain ⟨ns, names⟩ := inside
    rw [if_pos ⟨ns, names⟩, ← names, List.drop_left]
    rw [← names, List.drop_left] at some
    rw [List.getLast?_append_of_ne_nil _ some]
  · rename_i outside
    rw [if_neg outside]
    cases p.location.names with
    | nil => decide
    | cons n ns => rw [List.getLast?_cons_cons]

theorem declarationName?_eq_some {n d : String} (declared : declarationName? n = some d) :
    ∃ stem ending ext, n = stem ++ ext ∧ d = stem ++ ending ∧
      ending ∈ [".d.ts", ".d.mts", ".d.cts"] := by
  unfold declarationName? at declared
  split at declared
  · cases declared
  · obtain ⟨⟨ext, ending⟩, member, dropped⟩ := List.exists_of_findSome?_eq_some declared
    obtain ⟨stem, whole, rfl⟩ := Option.map_eq_some_iff.mp dropped
    refine ⟨String.ofList stem, ending, ext, ?_, rfl, ?_⟩
    · rw [← String.toList_inj, Text.dropTail?_eq_some.mp whole]
      simp
    · simp only [List.mem_cons, Prod.mk.injEq, List.not_mem_nil, or_false] at member
      rcases member with ⟨-, rfl⟩ | ⟨-, rfl⟩ | ⟨-, rfl⟩ | ⟨-, rfl⟩ | ⟨-, rfl⟩ | ⟨-, rfl⟩ | ⟨-, rfl⟩ |
        ⟨-, rfl⟩ <;> decide

theorem isName_declarationName {n d : String} (declared : declarationName? n = some d)
    (name : IsName n) : IsName d ∧ IsName (d ++ ".map") := by
  obtain ⟨stem, ending, ext, rfl, rfl, known⟩ := declarationName?_eq_some declared
  have clean : '/' ∉ stem.toList := fun slash => name.noSlash (by simp [slash])
  rw [String.append_assoc]
  simp only [List.mem_cons, List.not_mem_nil, or_false] at known
  rcases known with rfl | rfl | rfl <;>
    exact ⟨isName_append_ending clean (by decide) (by decide),
      isName_append_ending clean (by decide) (by decide)⟩

theorem declarationName_ne_map {n d : String} (declared : declarationName? n = some d)
    (other : String) : d ≠ other ++ ".map" := by
  obtain ⟨stem, ending, ext, -, rfl, known⟩ := declarationName?_eq_some declared
  intro same
  have last := congrArg (fun s : String => s.toList.getLast?) same
  simp only [List.mem_cons, List.not_mem_nil, or_false] at known
  rcases known with rfl | rfl | rfl <;> simp [List.getLast?_append] at last

theorem above_baseDirectory {root : Path} (rootRooted : root.isRooted) {compiled : List Path}
    (rooted : ∀ c ∈ compiled, c.isRooted) {c : Path} (member : c ∈ compiled) {n : String}
    (file : c.fileName? = some n) :
    ∃ ns, c.location = (baseDirectory root compiled).location.descend (ns ++ [n]) := by
  have rootedDirs : ∀ d ∈ compiled.filterMap Path.parent?, d.isRooted := by
    intro d inside
    obtain ⟨c, member, parent⟩ := List.mem_filterMap.mp inside
    exact Path.isRooted_parent? (rooted c member) parent
  have rootedAll : ∀ d ∈ root :: compiled.filterMap Path.parent?, d.isRooted := by
    simpa using ⟨rootRooted, by simpa using rootedDirs⟩
  obtain ⟨cs, found, written, greatest⟩ := Path.exists_commonAncestor (by simp) (.inl rootedAll)
  have base : baseDirectory root compiled = Path.ofSteps cs := by simp [baseDirectory, found]
  have top : (Path.ofSteps cs).isRooted := by
    have first : [.root] <+: cs := by
      apply (greatest _).mpr
      intro d inside
      rw [Path.steps_normalize, Path.steps_location_of_rooted (rootedAll d inside)]
      simp
    by_contra relative
    rw [← written] at first
    exact Path.root_notMem_steps relative (first.subset (by simp))
  obtain ⟨above, parent, -, place⟩ := Path.parent?_of_fileName? file
  have member' : above ∈ root :: compiled.filterMap Path.parent? :=
    List.mem_cons_of_mem _ (List.mem_filterMap.mpr ⟨c, member, parent⟩)
  have front : (Path.ofSteps cs).steps <+: above.normalize.steps := by
    rw [written]
    exact (greatest cs).mp List.prefix_rfl above member'
  obtain ⟨ns, down⟩ := Path.exists_descend_of_isPrefix (rootedAll above member') top front
  refine ⟨ns, ?_⟩
  rw [place, down, Location.descend_descend, base]

structure Configures (config : Value) (files : List Path) (output base : Path) : Prop where
  listed : config.field? "files" = some (.list (files.map fun p => .text p.text))
  alone : config.field? "include" = some (.list [])
  outDir : (config.field? "compilerOptions").bind (Value.field? "outDir") = some (.text output.text)
  declarationDir : (config.field? "compilerOptions").bind (Value.field? "declarationDir") =
    some (.text output.text)
  rootDir : (config.field? "compilerOptions").bind (Value.field? "rootDir") = some (.text base.text)

theorem lookup_toList {options : CompilerOptions} {key : String} {v : Value}
    (known : options[key]? = some v) : options.toList.lookup key = some v := by
  obtain ⟨before, after, split⟩ :=
    List.append_of_mem (Std.ExtTreeMap.mem_toList_iff_getElem?_eq_some.mpr known)
  rw [List.lookup_eq_some_iff]
  refine ⟨before, after, split, fun field member => ?_⟩
  have distinct := options.distinct_keys_toList
  rw [split] at distinct
  have apart := (List.pairwise_append.mp distinct).2.2 field member (key, v) (by simp)
  simp only [bne_iff_ne, ne_eq]
  rintro rfl
  simp at apart

theorem configures_tsconfig (o : ProjectOptions) (extending : Bool) (sources : List Path) (l : Layout)
    (compiled : List Path) :
    Configures (tsconfig o extending sources l compiled) compiled l.output l.base := by
  have option {key : String} {v : Value} (known : (compilerOptions o sources l)[key]? = some v) :
      ((tsconfig o extending sources l compiled).field? "compilerOptions").bind (Value.field? key) =
        some v := by
    simpa [tsconfig, Value.field?] using lookup_toList known
  refine ⟨?_, ?_, option ?_, option ?_, option ?_⟩
  · cases extending <;> rfl
  · cases extending <;> rfl
  all_goals
    simp only [compilerOptions, Std.ExtTreeMap.getElem?_insert, Std.compare_eq_iff_eq,
      String.reduceEq, if_false, if_true]

end Staging

end DeclBundle
