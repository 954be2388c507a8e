import DeclBundle.Proofs.Build.Rerooting
import DeclBundle.Proofs.Module.Canonical

namespace DeclBundle

namespace Component

theorem cleanName?_append {ending : String} (known : ending = ".d.ts" ∨ ending = ".d.ts.map")
    (stem : List Char) :
    cleanName? (stem ++ ".vue".toList ++ ending.toList) = some (stem ++ ending.toList) := by
  have own (ending : String) : Text.dropTail? (".vue".toList ++ ending.toList)
      (stem ++ ".vue".toList ++ ending.toList) = some stem :=
    Text.dropTail?_eq_some.mpr (List.append_assoc ..)
  unfold cleanName?
  rw [List.findSome?_cons]
  rcases known with rfl | rfl
  · rw [own]
    rfl
  · -- The name of a map does not end like that of a declaration.
    have other : Text.dropTail? (".vue".toList ++ ".d.ts".toList)
        (stem ++ ".vue".toList ++ ".d.ts.map".toList) = none := by
      rw [Option.eq_none_iff_forall_ne_some]
      intro front dropped
      have last := congrArg List.getLast? (Text.dropTail?_eq_some.mp dropped)
      simp at last
    rw [other, Option.map_none, List.findSome?_cons, own]
    rfl

end Component

namespace Output

variable {output : Output} {root directory : Path}

theorem exists_resolve_of_declarationDirectory (out : output.declarationDirectory root = .ok directory) :
    ∃ p, directory = root.resolve p := by
  unfold declarationDirectory at out
  split at out
  · exact ⟨_, (Except.ok.inj out).symm⟩
  · exact ⟨_, (Except.ok.inj out).symm⟩
  · cases out

theorem isRooted_declarationDirectory (top : root.isRooted)
    (out : output.declarationDirectory root = .ok directory) : directory.isRooted := by
  obtain ⟨p, rfl⟩ := exists_resolve_of_declarationDirectory out
  exact Path.isRooted_resolve p top

theorem steps_declarationDirectory (out : output.declarationDirectory root = .ok directory) :
    directory.steps = directory.location.steps := by
  obtain ⟨p, rfl⟩ := exists_resolve_of_declarationDirectory out
  exact Path.steps_resolve root p

end Output

namespace Rerooting

/-- The last name of a file and the one under which it is written: with cleaning, the names of declarations
and of their maps lose the mark of a component. -/
inductive Renames : Bool → String → String → Prop
  | plain (n : String) : Renames false n n
  | declarations (stem : String) : Renames true (stem ++ ".vue.d.ts") (stem ++ ".d.ts")
  | map (stem : String) : Renames true (stem ++ ".vue.d.ts.map") (stem ++ ".d.ts.map")
  | other {n : String} (noDeclarations : ¬".vue.d.ts".toList <:+ n.toList)
      (noMap : ¬".vue.d.ts.map".toList <:+ n.toList) : Renames true n n

theorem renames_writtenName (clean : Bool) (n : String) : Renames clean n (writtenName clean n) := by
  cases clean with
  | false => exact .plain n
  | true =>
    unfold writtenName
    rw [if_pos rfl]
    cases found : Component.cleanName? n.toList with
    | none =>
      have marked {ending : String} (known : ending = ".d.ts" ∨ ending = ".d.ts.map") :
          ¬".vue".toList ++ ending.toList <:+ n.toList := by
        intro suffix
        obtain ⟨stem, whole⟩ := suffix
        rw [← List.append_assoc] at whole
        rw [← whole, Component.cleanName?_append known] at found
        cases found
      exact .other (marked (.inl rfl)) (marked (.inr rfl))
    | some cleaned =>
      obtain ⟨stem, ending, known, whole, rfl⟩ := Component.cleanName?_eq_some found
      have written : String.ofList (stem ++ ending.toList) = String.ofList stem ++ ending := by
        simp
      rw [Option.map_some, Option.getD_some, written]
      rcases known with rfl | rfl
      · have named : n = String.ofList stem ++ ".vue.d.ts" := by
          rw [← String.toList_inj, whole]
          simp
        rw [named]
        exact .declarations _
      · have named : n = String.ofList stem ++ ".vue.d.ts.map" := by
          rw [← String.toList_inj, whole]
          simp
        rw [named]
        exact .map _

theorem isCanonical_target (r : Rerooting) (directory emitted : Path) :
    (r.target directory emitted).IsCanonical := by
  unfold target Path.resolve
  exact Path.isCanonical_normalize _

theorem isRooted_target (r : Rerooting) {directory : Path} (rooted : directory.isRooted) (emitted : Path) :
    (r.target directory emitted).isRooted := by
  unfold target
  exact Path.isRooted_resolve _ rooted

variable {root directory emitted : Path}

theorem exists_name_of_inside (file : emitted.IsNormal) (inside : root.Inside emitted) :
    ∃ ns n, emitted.fileName? = some n ∧ emitted.location = root.location.descend (ns ++ [n]) := by
  obtain ⟨names, some, place⟩ := inside
  rcases List.eq_nil_or_concat' names with rfl | ⟨ns, n, rfl⟩
  · exact absurd rfl some
  · exact ⟨ns, n, (Path.parent?_of_location file.steps_eq_location place).1, place⟩

theorem same_of_target_eq (file : emitted.IsNormal) (inside : root.Inside emitted) {other : Path}
    (file' : other.IsNormal) (inside' : root.Inside other)
    (same : (⟨root, false⟩ : Rerooting).target directory emitted =
      (⟨root, false⟩ : Rerooting).target directory other) : emitted.same other := by
  obtain ⟨ns, -, place⟩ := inside
  obtain ⟨ns', -, place'⟩ := inside'
  have moved := congrArg Path.location same
  have lands : ((⟨root, false⟩ : Rerooting).target directory emitted).location =
      directory.location.descend ns := Path.location_resolve_inside directory place
  have lands' : ((⟨root, false⟩ : Rerooting).target directory other).location =
      directory.location.descend ns' := Path.location_resolve_inside directory place'
  rw [lands, lands', Location.descend_inj] at moved
  rw [Path.same_iff, file.steps_eq_location, file'.steps_eq_location, place, place', moved]

/-- A file below the root is written below the directory of the output, at a path in normal form that leads
along the names of the file; and without cleaning, no other file below the root is written there. -/
theorem target_placed {output : Output} (top : root.isRooted)
    (out : output.declarationDirectory root = .ok directory) (clean : Bool) (file : emitted.IsNormal)
    (inside : root.Inside emitted) :
    ((⟨root, clean⟩ : Rerooting).target directory emitted).IsCanonical ∧
    ((⟨root, clean⟩ : Rerooting).target directory emitted).isRooted ∧
    directory.Inside ((⟨root, clean⟩ : Rerooting).target directory emitted) ∧
    (∃ ns n m, emitted.steps = root.normalize.steps ++ (ns ++ [n]).map .name ∧
      ((⟨root, clean⟩ : Rerooting).target directory emitted).steps =
        directory.steps ++ (ns ++ [m]).map .name ∧ Renames clean n m) ∧
    (clean = false → ∀ other : Path, other.IsNormal → root.Inside other →
      (⟨root, clean⟩ : Rerooting).target directory other =
        (⟨root, clean⟩ : Rerooting).target directory emitted → other.same emitted) := by
  have rooted := Output.isRooted_declarationDirectory top out
  have normal := Output.steps_declarationDirectory out
  obtain ⟨ns, n, name, place⟩ := exists_name_of_inside file inside
  have lands := location_target_inside directory clean name place
  have parts : emitted.steps = root.normalize.steps ++ (ns ++ [n]).map .name := by
    rw [file.steps_eq_location, place, Location.steps_descend, Path.steps_normalize]
  have moved : ((⟨root, clean⟩ : Rerooting).target directory emitted).steps =
      directory.steps ++ (ns ++ [writtenName clean n]).map .name := by
    rw [steps_target, lands, Location.steps_descend, normal]
  refine ⟨isCanonical_target .., isRooted_target _ rooted _, ⟨_, by simp, lands⟩,
    ⟨ns, n, _, parts, moved, renames_writtenName clean n⟩, ?_⟩
  intro plain other file' inside' same
  rw [plain] at same
  exact same_of_target_eq file' inside' file inside same

theorem target_placed_card :
    Output.declarationDirectory { file := some "out/index.js" } "/proj/./lib/.." = .ok "/proj/out" ∧
      Path.IsNormal "/proj/x.vue.d.ts/Card.vue.d.ts" ∧
      Path.Inside "/proj/./lib/.." "/proj/x.vue.d.ts/Card.vue.d.ts" ∧
      ∃ ns n m, Path.steps "/proj/x.vue.d.ts/Card.vue.d.ts" =
          (Path.normalize "/proj/./lib/..").steps ++ (ns ++ [n]).map .name ∧
        (target ⟨"/proj/./lib/..", true⟩ "/proj/out" "/proj/x.vue.d.ts/Card.vue.d.ts").steps =
          Path.steps "/proj/out" ++ (ns ++ [m]).map .name ∧ Renames true n m := by
  have beside : Path.resolve "/proj/./lib/.." "out" = "/proj/out" := by decide
  have out : Output.declarationDirectory { file := some "out/index.js" } "/proj/./lib/.." =
      .ok "/proj/out" := congrArg Except.ok beside
  have file : Path.IsNormal "/proj/x.vue.d.ts/Card.vue.d.ts" := ⟨by decide, by decide⟩
  have inside : Path.Inside "/proj/./lib/.." "/proj/x.vue.d.ts/Card.vue.d.ts" :=
    ⟨["x.vue.d.ts", "Card.vue.d.ts"], by decide, by decide⟩
  have placed := target_placed (by decide) out true file inside
  exact ⟨out, file, inside, placed.2.2.2.1⟩

example : target ⟨"/proj/./lib/..", true⟩ "/proj/out" "/proj/x.vue.d.ts/Card.vue.d.ts" =
    "/proj/out/x.vue.d.ts/Card.d.ts" := by decide

end Rerooting

end DeclBundle
