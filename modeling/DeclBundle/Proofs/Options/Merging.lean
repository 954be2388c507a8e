import DeclBundle.Proofs.Options.Layers
import DeclBundle.Proofs.Path.Level

namespace DeclBundle

theorem CompilerOptions.protect_protect (options : CompilerOptions) :
    options.protect.protect = options.protect := by
  apply Std.ExtTreeMap.ext_getElem?
  intro key
  rw [getElem?_protect, getElem?_protect]
  split <;> rfl

namespace ProjectOptions

/-- Merged again, settings are the same but for the file of settings. The path of that stays the same below an
absolute root, unless it is the default one and the root goes up somewhere; below a relative root just if the root
lies as deep as it climbed before, and for the default one has no dots besides. -/
theorem merge_again (root : Path) (overrides : Option ProjectOverrides) :
    let once := ofOverrides root (overrides.getD {})
    let twice := ofOverrides root once.toOverrides
    twice.root = once.root ∧ twice.skipListedFiles = once.skipListedFiles ∧ twice.options = once.options ∧
      (twice.tsconfigPath.same once.tsconfigPath ↔
        match (overrides.getD {}).tsconfigPath with
        | some path => path.isRooted ∨ root.isRooted ∨ root.location.Level
        | none => root.steps = root.location.steps ∧ (root.isRooted ∨ root.location.Level)) := by
  intro once twice
  have options : twice.options = once.options := CompilerOptions.protect_protect _
  have again : twice.tsconfigPath = root.resolve once.tsconfigPath := by
    simp only [twice, ofOverrides, toOverrides]
  refine ⟨rfl, rfl, options, ?_⟩
  rw [again]
  cases said : (overrides.getD {}).tsconfigPath with
  | none =>
    have default : once.tsconfigPath = root.join "tsconfig.json" := by
      simp only [once, ofOverrides, said]
    rw [default]
    exact Path.same_resolve_join_iff root (by decide +kernel)
  | some path =>
    have resolved : once.tsconfigPath = root.resolve path := by
      simp only [once, ofOverrides, said]
    rw [resolved]
    exact Path.same_resolve_resolve_iff root path

/-- Below a root that goes up, and below a relative one, the default file is another one after a second merge. -/
theorem moved_by_merging :
    (ofOverrides "/proj/../lib" {}).tsconfigPath = "/proj/../lib/tsconfig.json" ∧
      (ofOverrides "/proj/../lib" (ofOverrides "/proj/../lib" {}).toOverrides).tsconfigPath =
        "/lib/tsconfig.json" ∧
      ¬Path.same "/lib/tsconfig.json" "/proj/../lib/tsconfig.json" ∧
      (ofOverrides "proj" {}).tsconfigPath = "proj/tsconfig.json" ∧
      (ofOverrides "proj" (ofOverrides "proj" {}).toOverrides).tsconfigPath = "proj/proj/tsconfig.json" ∧
      ¬Path.same "proj/proj/tsconfig.json" "proj/tsconfig.json" := by
  decide +kernel

end ProjectOptions

end DeclBundle
