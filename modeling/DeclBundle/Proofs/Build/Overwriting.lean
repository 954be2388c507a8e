import DeclBundle.Proofs.Build.Emission
import DeclBundle.Proofs.Build.Observation
import DeclBundle.Proofs.Build.Rerooting
import DeclBundle.Proofs.Engine.Memory
import DeclBundle.Proofs.Engine.Sound

namespace DeclBundle

namespace Component

theorem cleanName?_declared (stem : String) :
    cleanName? (stem ++ ".d.ts").toList =
      (Text.dropTail? ".vue".toList stem.toList).map (· ++ ".d.ts".toList) := by
  simp only [cleanName?, List.findSome?_cons, List.findSome?_nil]
  simp [Text.dropTail?, Text.dropHead?]
  cases Text.dropHead? ['e', 'u', 'v', '.'] stem.toList.reverse <;> rfl

theorem cleanName?_declared_map (stem : String) :
    cleanName? (stem ++ ".d.ts" ++ ".map").toList =
      (Text.dropTail? ".vue".toList stem.toList).map (· ++ ".d.ts.map".toList) := by
  simp only [cleanName?, List.findSome?_cons, List.findSome?_nil]
  simp [Text.dropTail?, Text.dropHead?]
  cases Text.dropHead? ['e', 'u', 'v', '.'] stem.toList.reverse <;> rfl

end Component

namespace Rerooting

theorem exists_writtenStem (clean : Bool) (stem : String) :
    ∃ written, writtenName clean (stem ++ ".d.ts") = written ++ ".d.ts" ∧
      writtenName clean (stem ++ ".d.ts" ++ ".map") = written ++ ".d.ts" ++ ".map" := by
  cases clean with
  | false => exact ⟨stem, rfl, rfl⟩
  | true =>
    simp only [writtenName, if_true, Component.cleanName?_declared, Component.cleanName?_declared_map]
    cases Text.dropTail? ".vue".toList stem.toList with
    | none => exact ⟨stem, rfl, rfl⟩
    | some rest => exact ⟨String.ofList rest, by simp, by simp [← String.toList_inj]⟩

/-- The directory of a module and the name under which its declarations are written. -/
def slot (r : Rerooting) (p : Path) : Option Location × Option String :=
  (p.parent?.map Path.location,
    p.fileName?.map fun n => writtenName r.cleanNames (Path.declaredName n))

theorem slot_eq {r : Rerooting} {p : Path} {d : Location} {n : String} (stands : p.StandsAt d n) :
    r.slot p = (some d, some (writtenName r.cleanNames (Path.declaredName n))) := by
  obtain ⟨above, parent, rfl⟩ := stands.parent?
  simp [slot, parent, stands.file]

theorem extension?_declared {p : Path} {stem : String} {d : Location} {map : Bool}
    (stands : p.StandsAt d (stem ++ ".d.ts" ++ if map then ".map" else "")) :
    p.extension? = some (if map then "map" else "ts") := by
  unfold Path.extension?
  rw [stands.file]
  cases map <;> simp

theorem writtenName_inj {clean : Bool} {m n : String} {a b : Bool} :
    writtenName clean (m ++ ".d.ts" ++ if a then ".map" else "") =
        writtenName clean (n ++ ".d.ts" ++ if b then ".map" else "") ↔
      writtenName clean (m ++ ".d.ts") = writtenName clean (n ++ ".d.ts") ∧ a = b := by
  obtain ⟨stemM, declM, mapM⟩ := exists_writtenStem clean m
  obtain ⟨stemN, declN, mapN⟩ := exists_writtenStem clean n
  have apart (x y : String) : x ++ ".d.ts" ≠ y ++ ".d.ts" ++ ".map" := by
    intro same
    have last := congrArg (fun s : String => s.toList.getLast?) same
    simp at last
  cases a <;> cases b
  · simp
  · simpa [declM, mapN] using apart stemM stemN
  · simpa [mapM, declN] using (apart stemN stemM).symm
  · simp [declM, declN, mapM, mapN]

theorem above_of_inside {root p : Path} (inside : root.Inside p) {d : Location} {n : String}
    (stands : p.StandsAt d n) : ∃ ns, d = root.location.descend ns := by
  obtain ⟨names, some, place⟩ := inside
  rcases List.eq_nil_or_concat names with rfl | ⟨ns, m, rfl⟩
  · exact absurd rfl some
  · rw [List.concat_eq_append, ← Location.descend_descend] at place
    exact ⟨ns, (Location.descend_one_inj (stands.place.symm.trans place)).1⟩

theorem target_eq_iff_slot {r : Rerooting} {p q : Path} (insideP : r.root.Inside p)
    (insideQ : r.root.Inside q) {d e : Location} {n m : String} (standsP : p.StandsAt d n)
    (standsQ : q.StandsAt e m) {f g : Path} {a b : Bool}
    (declaredP : f.StandsAt d (Path.besideName n a)) (declaredQ : g.StandsAt e (Path.besideName m b))
    (directory : Path) :
    r.target directory f = r.target directory g ↔
      r.slot p = r.slot q ∧ f.extension? = g.extension? := by
  obtain ⟨ns, rfl⟩ := above_of_inside insideP standsP
  obtain ⟨ms, rfl⟩ := above_of_inside insideQ standsQ
  have targetP := location_target_inside directory r.cleanNames declaredP.file
    (declaredP.place.trans (Location.descend_descend ..))
  have targetQ := location_target_inside directory r.cleanNames declaredQ.file
    (declaredQ.place.trans (Location.descend_descend ..))
  have kinds : f.extension? = g.extension? ↔ a = b := by
    rw [extension?_declared declaredP, extension?_declared declaredQ]
    cases a <;> cases b <;> decide
  rw [target_eq_iff, targetP, targetQ, Location.descend_inj, slot_eq standsP, slot_eq standsQ, kinds,
    Prod.mk.injEq, Option.some.injEq, Option.some.injEq, Location.descend_inj]
  have names := @writtenName_inj r.cleanNames (Path.moduleStem n) (Path.moduleStem m) a b
  unfold Path.besideName Path.declaredName
  constructor
  · intro same
    obtain ⟨dirs, written⟩ := List.append_inj' same (by simp)
    obtain ⟨stems, kind⟩ := names.mp (List.singleton_inj.mp written)
    exact ⟨⟨dirs, stems⟩, kind⟩
  · rintro ⟨⟨rfl, stems⟩, kind⟩
    rw [names.mpr ⟨stems, kind⟩]

theorem disjoint_map_iff {α β : Type} {f : α → β} {xs ys : List α} :
    (xs.map f).Disjoint (ys.map f) ↔ ∀ x ∈ xs, ∀ y ∈ ys, f x ≠ f y := by
  simp only [List.disjoint_left, List.mem_map]
  constructor
  · intro disjoint x memberX y memberY same
    exact disjoint ⟨x, memberX, rfl⟩ ⟨y, memberY, same.symm⟩
  · rintro apart _ ⟨x, memberX, rfl⟩ ⟨y, memberY, same⟩
    exact apart x memberX y memberY same.symm

open Emission in
theorem nodup_targets {r : Rerooting} {p : Path} (module : p.IsModule) (inside : r.root.Inside p)
    {files : List EmittedFile} (declares : p.Declares files) (directory : Path) :
    (targets r directory files).Nodup := by
  obtain ⟨front, stem, ending, -, -, -, stands, -⟩ := module.parts
  rcases declares.cases stands with rfl | ⟨f, kind, rfl, -⟩ | ⟨f, g, rfl, standsF, standsG⟩
  · simp [targets]
  · simp [targets]
  · have iff := target_eq_iff_slot inside inside stands stands standsF standsG directory
    have kinds : f.path.extension? ≠ g.path.extension? := by
      rw [extension?_declared standsF, extension?_declared standsG]
      decide
    simp [targets, iff, kinds]

open Emission in
theorem disjoint_targets_iff {r : Rerooting} {p q : Path} (moduleP : p.IsModule)
    (moduleQ : q.IsModule) (insideP : r.root.Inside p) (insideQ : r.root.Inside q)
    {files others : List EmittedFile} (declaresP : p.Declares files) (declaresQ : q.Declares others)
    (directory : Path) :
    (targets r directory files).Disjoint (targets r directory others) ↔
      (r.slot p = r.slot q → ∀ f ∈ files, ∀ g ∈ others, f.path.extension? ≠ g.path.extension?) := by
  obtain ⟨front, stem, ending, -, -, -, stands, -⟩ := moduleP.parts
  obtain ⟨front', stem', ending', -, -, -, stands', -⟩ := moduleQ.parts
  have kind {p : Path} {files : List EmittedFile} {d : Location} {n : String}
      (declares : p.Declares files) (stands : p.StandsAt d n) :
      ∀ f ∈ files, ∃ a, f.path.StandsAt d (Path.besideName n a) := by
    intro f member
    rcases declares.cases stands with rfl | ⟨f', a, rfl, standsF⟩ | ⟨f', g, rfl, standsF, standsG⟩
    · contradiction
    · exact ⟨a, List.mem_singleton.mp member ▸ standsF⟩
    · rcases List.mem_pair.mp member with rfl | rfl
      · exact ⟨_, standsF⟩
      · exact ⟨_, standsG⟩
  have iff : ∀ f ∈ files, ∀ g ∈ others, (r.target directory f.path = r.target directory g.path ↔
      r.slot p = r.slot q ∧ f.path.extension? = g.path.extension?) := by
    intro f memberF g memberG
    obtain ⟨a, standsF⟩ := kind declaresP stands f memberF
    obtain ⟨b, standsG⟩ := kind declaresQ stands' g memberG
    exact target_eq_iff_slot insideP insideQ stands stands' standsF standsG directory
  rw [targets, targets, disjoint_map_iff]
  constructor
  · intro apart shared f memberF g memberG same
    exact apart f memberF g memberG ((iff f memberF g memberG).mpr ⟨shared, same⟩)
  · intro kinds f memberF g memberG equal
    obtain ⟨shared, same⟩ := (iff f memberF g memberG).mp equal
    exact kinds shared f memberF g memberG same

end Rerooting

namespace Emission

theorem mem_filesOf_iff {ε : Type} {engine : Engine ε} {e : ε} {h : Handle} {f : EmittedFile} :
    f ∈ filesOf engine e h ↔ ∃ files, engine.emitted e h.id = .ok files ∧ f ∈ files := by
  unfold filesOf
  cases engine.emitted e h.id <;> simp [Except.toOption]

theorem nodup_flatMap_targets {ε : Type} {engine : Engine ε} {e : ε} {r : Rerooting}
    {handles : List Handle}
    (declares : ∀ h ∈ handles, h.logicalPath.IsModule ∧ r.root.Inside h.logicalPath ∧
      h.logicalPath.Declares (filesOf engine e h)) (directory : Path) :
    (handles.flatMap fun h => targets r directory (filesOf engine e h)).Nodup ↔
      handles.Pairwise fun h h' => r.slot h.logicalPath = r.slot h'.logicalPath →
        ∀ f ∈ filesOf engine e h, ∀ g ∈ filesOf engine e h', f.path.extension? ≠ g.path.extension? := by
  rw [List.nodup_flatMap]
  have each : ∀ h ∈ handles, (targets r directory (filesOf engine e h)).Nodup := by
    intro h member
    obtain ⟨module, inside, declared⟩ := declares h member
    exact Rerooting.nodup_targets module inside declared directory
  have pairs {h h' : Handle} (member : h ∈ handles) (member' : h' ∈ handles) :=
    Rerooting.disjoint_targets_iff (declares h member).1 (declares h' member').1
      (declares h member).2.1 (declares h' member').2.1 (declares h member).2.2
      (declares h' member').2.2 directory
  constructor
  · rintro ⟨-, disjoint⟩
    exact disjoint.imp_of_mem fun member member' => (pairs member member').mp
  · intro apart
    exact ⟨each, apart.imp_of_mem fun member member' => (pairs member member').mpr⟩

end Emission

namespace Plugin

open Emission

/-- Both engines emit for a module nothing but its declarations and their map. With such an engine the
targets of a build differ from each other if and only if no two modules that share a slot both have
declarations or both have a map. -/
theorem nodup_written_iff {κ : Type} (sink : Sink κ) (output : Output) :
    (CompilerEngine.engine.Declaring ∧
      ∀ script : MemoryScript, script.emit = [] → (MemoryEngine.engine script).Declaring) ∧
    ∀ {ε : Type} {engine : Engine ε}, engine.Declaring → ∀ {p : Plugin ε}, p.Reached engine →
      (∀ h ∈ p.registry.handles, p.config.root.Inside h.logicalPath) →
      ∀ (k k' : κ) (w w' : World) (summary : Summary) (p' : Plugin ε),
        generate engine sink output (p, k, w) = .ok summary (p', k', w') →
        (summary.written.Nodup ↔ p.registry.handles.Pairwise fun h h' =>
          (⟨p.config.root, p.config.cleanNames⟩ : Rerooting).slot h.logicalPath =
            (⟨p.config.root, p.config.cleanNames⟩ : Rerooting).slot h'.logicalPath →
          ∀ files files', engine.emitted p'.engine h.id = .ok files →
            engine.emitted p'.engine h'.id = .ok files' →
            ∀ f ∈ files, ∀ g ∈ files', f.path.extension? ≠ g.path.extension?) := by
  refine ⟨⟨CompilerEngine.declaring, fun _ => MemoryEngine.declaring⟩, ?_⟩
  intro ε engine declaring p reached inside k k' w w' summary p' done
  obtain ⟨Inv, Known, tracks, emits⟩ := declaring
  have tracked := reached.tracked tracks
  have ends : Act.Ends (generate engine sink output) (p, k, w)
      (fun summary t => ∃ directory w ds e w₁ w₂ w₃,
        engine.diagnostics (p.engine, w) = .ok ds (e, w₁) ∧
          engine.emit (e, w₂) = .ok () (t.1.engine, w₃) ∧
          summary.written = p.registry.handles.flatMap fun h =>
            targets ⟨p.config.root, p.config.cleanNames⟩ directory (filesOf engine t.1.engine h))
      fun _ _ => True := by
    simp only [generate, Act.ends_bind, Act.ends_get, Act.ends_focus]
    exact ends_emitDeclarations ..
  obtain ⟨directory, w₀, ds, e, w₁, w₂, w₃, surveyed, emitted, written⟩ := ends.ok done
  -- Diagnostics are asked for before the engine emits, and take nothing from what it knows of the modules.
  obtain ⟨inv, kept⟩ := (tracks.diagnostics tracked.inv w₀).ok surveyed
  have declared := (emits e w₂ inv).ok emitted
  rw [written, nodup_flatMap_targets]
  · refine List.Pairwise.iff fun h h' => ?_
    simp only [mem_filesOf_iff]
    constructor
    · intro apart shared files files' found found' f memberF g memberG
      exact apart shared f ⟨files, found, memberF⟩ g ⟨files', found', memberG⟩
    · rintro apart shared f ⟨files, found, memberF⟩ g ⟨files', found', memberG⟩
      exact apart shared files files' found found' f memberF g memberG
  · intro h member
    obtain ⟨module, known⟩ := tracked.known h member
    refine ⟨module, inside h member, ?_⟩
    unfold filesOf
    cases found : engine.emitted p'.engine h.id with
    | error _ => exact fun d n _ => ⟨[], by simp, .nil⟩
    | ok files => exact declared _ _ module (kept _ _ known) files found

def cardScript : MemoryScript := { disk := some [("/proj/Card.ts", "export const size = 1")] }

def cardWorld : World :=
  ⟨.empty, ["proj"], [], fun _ _ t => ⟨t, .empty, .empty, 0⟩, [], []⟩

def cardConfig (cleanNames : Bool) : Config :=
  { Config.initial "/proj" with includes := .many [], excludes := .many [], cleanNames := cleanNames }

def cardStart (cleanNames : Bool) : Plugin MemoryEngine :=
  ⟨cardConfig cleanNames, ⟨⟨[], []⟩, ⟨[], []⟩⟩, ⟨.empty, []⟩, .empty⟩

def cardObserve (p : Plugin MemoryEngine) (code id : String) : Plugin MemoryEngine :=
  ((transform (MemoryEngine.engine cardScript) code id).outcome (p, cardWorld)).2.1

def cardPlugin (cleanNames : Bool) : Plugin MemoryEngine :=
  cardObserve
    (cardObserve (cardStart cleanNames) "export default 1" "/proj/Card.vue?vue&type=script&lang.ts")
    "export const size = 1" "/proj/Card.ts"

theorem reached_observe {p : Plugin MemoryEngine} (reached : p.Reached (MemoryEngine.engine cardScript))
    (code id : String) : (cardObserve p code id).Reached (MemoryEngine.engine cardScript) :=
  reached.transformed code id cardWorld

theorem reached_card (cleanNames : Bool) :
    (cardPlugin cleanNames).Reached (MemoryEngine.engine cardScript) := by
  have start : (cardStart cleanNames).Reached (MemoryEngine.engine cardScript) :=
    @Reached.created _ _ (cardConfig cleanNames) cardWorld _ _ rfl
  exact reached_observe (reached_observe start _ _) _ _

theorem state_card (cleanNames : Bool) :
    (cardPlugin cleanNames).registry.handles =
        [⟨⟨0⟩, "/proj/Card.vue.ts", .scriptBlock⟩, ⟨⟨1⟩, "/proj/Card.ts", .source⟩] ∧
      (cardPlugin cleanNames).config.root = "/proj" ∧
      (cardPlugin cleanNames).config.cleanNames = cleanNames := by
  cases cleanNames <;> decide

theorem inside_card (cleanNames : Bool) : ∀ h ∈ (cardPlugin cleanNames).registry.handles,
    (cardPlugin cleanNames).config.root.Inside h.logicalPath := by
  rw [(state_card cleanNames).1, (state_card cleanNames).2.1]
  intro h member
  rcases List.mem_pair.mp member with rfl | rfl
  · exact ⟨["Card.vue.ts"], by decide, by decide⟩
  · exact ⟨["Card.ts"], by decide, by decide⟩

def cardTargets (cleanNames : Bool) : List Path :=
  match generate (MemoryEngine.engine cardScript) Sink.memory { directory := some "dist" }
    (cardPlugin cleanNames, {}, cardWorld) with
  | .ok summary _ => summary.written
  | .error _ _ => []

theorem exists_generate_card {cleanNames : Bool} (some : cardTargets cleanNames ≠ []) :
    ∃ summary t, generate (MemoryEngine.engine cardScript) Sink.memory { directory := .some "dist" }
      (cardPlugin cleanNames, {}, cardWorld) = .ok summary t ∧
      summary.written = cardTargets cleanNames := by
  unfold cardTargets at some ⊢
  split at some
  · rename_i summary t run
    exact ⟨summary, t, run, rfl⟩
  · exact absurd rfl some

/-- Two modules under different paths, of which the second is written over the first. -/
theorem written_twice_card :
    (cardPlugin true).Reached (MemoryEngine.engine cardScript) ∧ cardScript.emit = [] ∧
    (∀ h ∈ (cardPlugin true).registry.handles,
      (cardPlugin true).config.root.Inside h.logicalPath) ∧
    ((cardPlugin true).registry.handles.Pairwise fun h h' => ¬h.logicalPath.same h'.logicalPath) ∧
    ∃ summary t, generate (MemoryEngine.engine cardScript) Sink.memory { directory := some "dist" }
      (cardPlugin true, {}, cardWorld) = .ok summary t ∧
      summary.written = [⟨"/proj/dist/Card.d.ts"⟩, ⟨"/proj/dist/Card.d.ts"⟩] ∧
      ¬summary.written.Nodup := by
  have targets : cardTargets true = [⟨"/proj/dist/Card.d.ts"⟩, ⟨"/proj/dist/Card.d.ts"⟩] := by decide
  have distinct : (cardPlugin true).registry.handles.Pairwise fun h h' =>
      ¬h.logicalPath.same h'.logicalPath := by
    rw [(state_card true).1]
    decide
  obtain ⟨summary, t, run, written⟩ := @exists_generate_card true (by simp [targets])
  refine ⟨reached_card true, rfl, inside_card true, distinct, summary, t, run, ?_⟩
  exact ⟨written.trans targets, by rw [written, targets]; decide⟩

theorem nodup_written_card :
    (MemoryEngine.engine cardScript).Declaring ∧
    (cardPlugin false).Reached (MemoryEngine.engine cardScript) ∧
    (∀ h ∈ (cardPlugin false).registry.handles,
      (cardPlugin false).config.root.Inside h.logicalPath) ∧
    ∃ summary t, generate (MemoryEngine.engine cardScript) Sink.memory { directory := some "dist" }
      (cardPlugin false, {}, cardWorld) = .ok summary t ∧
      ((cardPlugin false).registry.handles.Pairwise fun h h' =>
        (⟨"/proj", false⟩ : Rerooting).slot h.logicalPath ≠
          (⟨"/proj", false⟩ : Rerooting).slot h'.logicalPath) ∧
      summary.written.Nodup := by
  obtain ⟨⟨-, memory⟩, iff⟩ := nodup_written_iff Sink.memory { directory := some "dist" }
  have declaring : (MemoryEngine.engine cardScript).Declaring := memory cardScript rfl
  have targets : cardTargets false =
      [⟨"/proj/dist/Card.vue.d.ts"⟩, ⟨"/proj/dist/Card.d.ts"⟩] := by decide
  obtain ⟨summary, t, run, -⟩ := @exists_generate_card false (by simp [targets])
  have apart : (cardPlugin false).registry.handles.Pairwise fun h h' =>
      (⟨"/proj", false⟩ : Rerooting).slot h.logicalPath ≠
        (⟨"/proj", false⟩ : Rerooting).slot h'.logicalPath := by
    rw [(state_card false).1]
    decide
  refine ⟨declaring, reached_card false, inside_card false, summary, t, run, apart, ?_⟩
  have iff := iff declaring (reached_card false) (inside_card false) {} t.2.1 cardWorld t.2.2 summary t.1
    run
  rw [(state_card false).2.1, (state_card false).2.2] at iff
  refine iff.mpr (apart.imp ?_)
  intro h h' different same
  exact absurd same different

end Plugin

end DeclBundle
