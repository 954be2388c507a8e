import DeclBundle.Engine.Memory
import DeclBundle.Proofs.Engine.Basic

namespace DeclBundle.MemoryEngine

def Sound (e : MemoryEngine) : Prop := ∀ p ∈ e.sources.paths, p.IsModule

theorem sound_insert {e : MemoryEngine} (sound : e.Sound) {p : Path} (module : p.IsModule)
    (text : String) : ({ e with sources := (e.sources.insert p text).1 } : MemoryEngine).Sound :=
  Sources.forall_paths_insert sound module text

theorem ends_guard {σ : Type} (script : MemoryScript) (stage : Stage) (s : σ) :
    Act.Ends (guard script stage) s (fun _ t => t = s) fun _ t => t = s := by
  by_cases told : stage ∈ script.failures <;> simp [Act.Ends, guard, told]

theorem ends_load (script : MemoryScript) (p : Path) (s : MemoryEngine × World) :
    Act.Ends (load script p) s (fun _ t => t = s) fun _ t => t = s := by
  unfold load
  split
  · simp
  · split <;> simp

theorem ends_register {e : MemoryEngine} (sound : e.Sound) {p : Path} (module : p.IsModule)
    (text : String) (w : World) :
    Act.Ends (register p text) (e, w)
      (fun id t => t.1.Sound ∧ t.1.sources.Knows id p ∧
        ∀ i q, e.sources.Knows i q → t.1.sources.Knows i q)
      fun _ t => t.1.Sound ∧ ∀ i q, e.sources.Knows i q → t.1.sources.Knows i q := by
  have sound' := sound_insert sound module text
  have kept : ∀ i q, e.sources.Knows i q → (e.sources.insert p text).1.Knows i q :=
    fun _ _ known => known.insert p text
  simp only [register, Act.ends_bind, Act.ends_get, Act.ends_modify, Act.ends_ofExcept]
  exact ⟨fun id number => ⟨sound', Sources.knows_insert number, kept⟩, fun _ _ => ⟨sound', kept⟩⟩

theorem tracks (script : MemoryScript) : (engine script).Tracks Sound fun e => e.sources.Knows where
  create options w := by
    simp only [engine, Act.ends_bind, Act.ends_pure]
    refine (ends_guard ..).mono (fun _ _ _ => ?_) fun _ _ _ => trivial
    simp [Sound, Sources.paths, Sources.empty]
  addText {e} sound p module text w := by
    simp only [engine, Act.ends_bind]
    refine (ends_guard ..).mono ?_ ?_
    · rintro _ _ rfl
      exact (ends_register sound module text w).mono (fun _ _ kept => kept) fun _ _ kept => kept
    · rintro _ _ rfl
      exact ⟨sound, fun _ _ known => known⟩
  addFile {e} sound p module w := by
    simp only [engine, Act.ends_bind]
    refine (ends_guard ..).mono ?_ ?_
    · rintro _ _ rfl
      refine (ends_load ..).mono ?_ ?_
      · rintro text _ rfl
        exact (ends_register sound module text w).mono (fun _ _ kept => kept) fun _ _ kept => kept
      · rintro _ _ rfl
        exact ⟨sound, fun _ _ known => known⟩
    · rintro _ _ rfl
      exact ⟨sound, fun _ _ known => known⟩
  diagnostics {e} sound w := by
    simp only [engine, Act.ends_bind, Act.ends_get, Act.ends_pure]
    refine (ends_guard ..).mono ?_ ?_
    all_goals
      rintro _ _ rfl
      exact ⟨sound, fun _ _ known => known⟩

theorem standsAt_declarationPath {p : Path} (module : p.IsModule) {d : Location} {n : String}
    (stands : p.StandsAt d n) : (declarationPath p).StandsAt d (Path.declaredName n) := by
  obtain ⟨front, stem, ending, known, clean, whole, stands', joined⟩ := module.parts
  obtain ⟨rfl, rfl⟩ := stands'.unique stands
  have name : IsName (stem ++ ".d.ts") := isName_append_ending clean (by decide) (by decide)
  have written : declarationPath p = front.join ⟨stem ++ ".d.ts"⟩ := by
    rw [← joined ".d.ts" name]
    simp only [Path.moduleEndings, List.mem_cons, List.not_mem_nil, or_false] at known
    rcases known with rfl | rfl | rfl <;>
      simp [declarationPath, whole, Text.dropTail?, Text.dropHead?]
  rw [written, Path.declaredName, Path.moduleStem_append known]
  exact Path.standsAt_join front name

theorem declares_declarations {p q : Path} (module : q.IsModule) (same : q.same p) (text : String) :
    p.Declares (declarations q text) := by
  intro d n stands
  unfold declarations
  split
  · exact ⟨[], by simp, .nil⟩
  · refine ⟨[Path.declaredName n], by simp, .cons ?_ .nil⟩
    exact standsAt_declarationPath module (stands.of_same (Path.same_iff.mp same))

theorem declaring {script : MemoryScript} (plain : script.emit = []) : (engine script).Declaring := by
  refine ⟨_, _, tracks script, ?_⟩
  intro e w sound
  simp only [engine, Act.ends_bind, Act.ends_modify]
  refine (ends_guard ..).mono ?_ fun _ _ _ => trivial
  rintro _ _ rfl id p module ⟨q, source, same⟩ files found
  simp only [Sources.paths, List.getElem?_map, Option.map_eq_some_iff] at source
  obtain ⟨⟨q', text⟩, entry, rfl⟩ := source
  have moduleQ : q'.IsModule := sound q' (List.mem_map_of_mem (List.mem_of_getElem? entry))
  have emitted : (emitAll script e).outputs[id.index]? = some (declarations q' text) := by
    simp [emitAll, entry, outputOf, plain]
  obtain rfl : declarations q' text = files := by
    unfold outputs? at found
    rw [emitted] at found
    split at found
    · contradiction
    · exact Except.ok.inj found
  exact declares_declarations moduleQ same text

end DeclBundle.MemoryEngine
