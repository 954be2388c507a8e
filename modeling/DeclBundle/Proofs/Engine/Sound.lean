import DeclBundle.Engine.Compiler
import DeclBundle.Proofs.Engine.Basic
import Mathlib.Data.List.Forall2

namespace DeclBundle

def World.textAt? (w : World) (p : Path) : Option String := (w.tree.readText w.directory p).toOption

def World.Unread (w : World) (p : Path) : Prop := w.isFile p ∧ w.textAt? p = none

theorem FileTree.readText_of_not_isFile {t : FileTree} {here : Place} {p : Path}
    (none : t.isFile here p = false) : ∃ e, t.readText here p = .error e := by
  unfold FileTree.isFile at none
  unfold FileTree.readText
  split <;> simp_all

namespace Staging

def declaredNames (p : Path) : List String :=
  match p.fileName?.bind declarationName? with
  | some name => [name, name ++ ".map"]
  | none => []

end Staging

namespace CompilerEngine

def filesAt (w : World) (logical output : Path) (names : List String) : List EmittedFile :=
  names.filterMap fun name =>
    (w.textAt? (output.withFileName name)).map (EmittedFile.mk (logical.withFileName name))

theorem ends_readFiles (logical output : Path) (names : List String) (w : World) :
    Act.Ends (readFiles logical output names) w
      (fun files t => t = w ∧ files = filesAt w logical output names ∧
        ∀ name ∈ names, ¬w.Unread (output.withFileName name))
      (fun _ t => t = w ∧ ∃ name ∈ names, w.Unread (output.withFileName name)) := by
  induction names with
  | nil => simp [readFiles, filesAt]
  | cons name names ih =>
    simp only [readFiles, Act.ends_bind, Act.ends_get]
    split
    · rename_i file
      simp only [Act.ends_bind, World.ends_readText, Act.ends_pure]
      refine ⟨fun text read => ih.mono ?_ ?_, fun e failed => ?_⟩
      · rintro files t ⟨same, rfl, readable⟩
        exact ⟨same, by simp [filesAt, World.textAt?, read, Except.toOption],
          List.forall_mem_cons.mpr
            ⟨by simp [World.Unread, World.textAt?, read, Except.toOption], readable⟩⟩
      · rintro e t ⟨same, name', member, unreadable⟩
        exact ⟨same, name', by simp [member], unreadable⟩
      · exact ⟨trivial, name, by simp, file, by simp [World.textAt?, failed, Except.toOption]⟩
    · rename_i noFile
      obtain ⟨e, failed⟩ := FileTree.readText_of_not_isFile (by simpa [World.isFile] using noFile)
      refine ih.mono ?_ ?_
      · rintro files t ⟨same, rfl, readable⟩
        exact ⟨same, by simp [filesAt, World.textAt?, failed, Except.toOption],
          List.forall_mem_cons.mpr ⟨fun unread => noFile unread.1, readable⟩⟩
      · rintro e t ⟨same, name', member, unreadable⟩
        exact ⟨same, name', by simp [member], unreadable⟩

theorem ends_readEmitted (logical output : Path) (w : World) :
    Act.Ends (readEmitted logical output) w
      (fun files t => t = w ∧ files = filesAt w logical output (Staging.declaredNames logical) ∧
        ∀ name ∈ Staging.declaredNames logical, ¬w.Unread (output.withFileName name))
      (fun _ t => t = w ∧ ∃ name ∈ Staging.declaredNames logical,
        w.Unread (output.withFileName name)) := by
  unfold readEmitted Staging.declaredNames
  cases logical.fileName?.bind Staging.declarationName? with
  | some name => exact ends_readFiles ..
  | none => simp [filesAt]

theorem ends_readOutputs (l : Layout) (sources : List (Path × Path)) (w : World) :
    Act.Ends (readOutputs l sources) w
      (fun outputs t => t = w ∧ (outputs = sources.map fun (logical, compiled) =>
          filesAt w logical (l.output.join (l.base.relativeTo compiled)) (Staging.declaredNames logical)) ∧
        ∀ source ∈ sources, ∀ name ∈ Staging.declaredNames source.1,
          ¬w.Unread ((l.output.join (l.base.relativeTo source.2)).withFileName name))
      (fun _ t => t = w ∧ ∃ source ∈ sources, ∃ name ∈ Staging.declaredNames source.1,
        w.Unread ((l.output.join (l.base.relativeTo source.2)).withFileName name)) := by
  induction sources with
  | nil => simp [readOutputs]
  | cons source sources ih =>
    obtain ⟨logical, compiled⟩ := source
    simp only [readOutputs, Act.ends_bind, Act.ends_pure]
    refine (ends_readEmitted ..).mono ?_ ?_
    · rintro files t ⟨rfl, rfl, readable⟩
      refine ih.mono ?_ ?_
      · rintro outputs t ⟨same, rfl, readable'⟩
        exact ⟨same, rfl, List.forall_mem_cons.mpr ⟨readable, readable'⟩⟩
      · rintro e t ⟨same, source, member, unreadable⟩
        exact ⟨same, source, by simp [member], unreadable⟩
    · rintro e t ⟨rfl, name, member, unreadable⟩
      exact ⟨rfl, _, List.mem_cons_self, name, member, unreadable⟩

theorem paths_filesAt (w : World) (logical output : Path) (names : List String) :
    ((filesAt w logical output names).map EmittedFile.path).Sublist
      (names.map logical.withFileName) := by
  induction names with
  | nil => simp [filesAt]
  | cons name names ih =>
    unfold filesAt at ih ⊢
    cases text : w.textAt? (output.withFileName name) with
    | none =>
      simp only [List.filterMap_cons, text, Option.map_none]
      exact ih.cons _
    | some text' =>
      simp only [List.filterMap_cons, text, Option.map_some]
      exact ih.cons_cons _

def NamedAfter (p : Path) (files : List EmittedFile) : Prop :=
  (files.map EmittedFile.path).Sublist ((Staging.declaredNames p).map p.withFileName)

def Sound (e : CompilerEngine) : Prop :=
  ∀ c, e.compilation = some c → List.Forall₂ NamedAfter e.sources.paths c.outputs

theorem sound_of_none {e : CompilerEngine} (none : e.compilation = none) : e.Sound := by
  intro c some
  rw [none] at some
  cases some

def enter (e : CompilerEngine) (p : Path) (source : SourceText) : CompilerEngine :=
  { e with sources := (e.sources.insert p source).1, compilation := none }

structure Overruns (e : CompilerEngine) (p : Path) (source : SourceText) (error : Error)
    (e' : CompilerEngine) : Prop where
  beyond : SourceId.limit ≤ (e.sources.insert p source).2
  told : error = .tooManySources .outOfRange
  entered : e' = e.enter p source

theorem ends_register (p : Path) (source : SourceText) (e : CompilerEngine) (w : World) :
    Act.Ends (register p source) (e, w)
      (fun id t => SourceId.ofIndex (e.sources.insert p source).2 = .ok id ∧ t.1 = e.enter p source)
      (fun error t => Overruns e p source error t.1) := by
  have numbered (v : World) :
      Act.Ends (Act.ofExcept (e.sources.register p source).2) (e.enter p source, v)
        (fun id t => SourceId.ofIndex (e.sources.insert p source).2 = .ok id ∧ t.1 = e.enter p source)
        (fun error t => Overruns e p source (.tooManySources error) t.1) := by
    rw [Act.ends_ofExcept]
    refine ⟨fun id number => ⟨number, rfl⟩, fun error none => ?_⟩
    obtain ⟨beyond, rfl⟩ := SourceId.ofIndex_eq_error_iff.mp none
    exact ⟨beyond, rfl, rfl⟩
  unfold register
  simp only [Act.ends_bind, Act.ends_get]
  split
  · simp only [Act.ends_bind, Act.ends_second, World.ends_note, Act.ends_modify, Act.ends_mapError]
    exact numbered _
  · simp only [Act.ends_bind, Act.ends_modify, Act.ends_mapError]
    exact numbered w

theorem ends_addFile (p : Path) (e : CompilerEngine) (w : World) :
    Act.Ends (addFile p) (e, w)
      (fun id t => SourceId.ofIndex (e.sources.insert p .onDisk).2 = .ok id ∧ t.1 = e.enter p .onDisk)
      (fun error t => (t = (e, w) ∧ ∀ cause, error ≠ .tooManySources cause) ∨
        Overruns e p .onDisk error t.1) := by
  unfold addFile
  simp only [Act.ends_bind, Act.ends_get]
  split
  · rw [Act.ends_throw]
    exact .inl ⟨rfl, fun _ same => by cases same⟩
  · exact (ends_register p .onDisk e w).mono (fun _ _ => id) fun _ _ => .inr
  · rw [Act.ends_throw]
    exact .inl ⟨rfl, fun _ same => by cases same⟩

theorem forall₂_namedAfter (f : Path × Path → List EmittedFile)
    (declared : ∀ source, NamedAfter source.1 (f source)) {ps qs : List Path}
    (length : ps.length = qs.length) : List.Forall₂ NamedAfter ps ((ps.zip qs).map f) := by
  induction ps generalizing qs with
  | nil => simp
  | cons p ps ih =>
    cases qs with
    | nil => simp at length
    | cons q qs => exact .cons (declared (p, q)) (ih (by simpa using length))

theorem ends_compileIn (e : CompilerEngine) (staging : Path) (w : World) :
    Act.Ends (compileIn e staging) w
      (fun c _ => List.Forall₂ NamedAfter e.sources.paths c.outputs) (fun _ _ => True) := by
  unfold compileIn
  dsimp only
  refine .after fun _ _ => .after fun _ _ => .after fun _ _ => .after fun _ _ => .after fun _ _ =>
    .after fun _ _ => .after fun _ t => ?_
  simp only [Act.ends_bind, Act.ends_pure]
  refine (ends_readOutputs ..).mono ?_ fun _ _ _ => trivial
  rintro outputs t ⟨-, rfl, -⟩
  exact forall₂_namedAfter _ (fun _ => paths_filesAt ..) (by simp [Sources.paths])

theorem ends_compile (e : CompilerEngine) (w : World) :
    Act.Ends (compile e) w (fun c _ => List.Forall₂ NamedAfter e.sources.paths c.outputs)
      (fun _ _ => True) := by
  have inner (staging : Path) (w : World) (cleanup : World → World) :
      Act.Ends ((compileIn e staging).andFinally cleanup) w
        (fun c _ => List.Forall₂ NamedAfter e.sources.paths c.outputs) (fun _ _ => True) := by
    rw [Act.ends_andFinally]
    exact ends_compileIn e staging w
  unfold compile
  split
  · exact .after fun _ _ => .after fun staging t => inner staging t _
  · exact .after fun staging t => inner staging t _

theorem ends_ensureCompiled_of_some {e : CompilerEngine} {c : Compilation} (known : e.compilation = some c)
    {good : Compilation → CompilerEngine × World → Prop} {bad : Error → CompilerEngine × World → Prop}
    (w : World) : Act.Ends ensureCompiled (e, w) good bad ↔ good c (e, w) := by
  unfold ensureCompiled
  simp only [Act.ends_bind, Act.ends_get, known, Act.ends_pure]

theorem ends_ensureCompiled_of_none {e : CompilerEngine} (unknown : e.compilation = none)
    {good : Compilation → CompilerEngine × World → Prop} {bad : Error → CompilerEngine × World → Prop}
    (w : World) : Act.Ends ensureCompiled (e, w) good bad ↔
      Act.Ends (compile e) w (fun c t => good c ({ e with compilation := some c }, t))
        fun error t => bad error (e, t) := by
  unfold ensureCompiled
  simp only [Act.ends_bind, Act.ends_get, unknown, Act.ends_second, Act.ends_modify, Act.ends_pure]

theorem ends_ensureCompiled_same (e : CompilerEngine) (w : World) :
    Act.Ends ensureCompiled (e, w) (fun _ t => t.1.options = e.options ∧ t.1.sources = e.sources)
      (fun _ t => t.1.options = e.options ∧ t.1.sources = e.sources) := by
  cases state : e.compilation with
  | some c => exact (ends_ensureCompiled_of_some state w).mpr ⟨rfl, rfl⟩
  | none =>
    rw [ends_ensureCompiled_of_none state]
    exact .of_runs (fun _ _ _ => ⟨rfl, rfl⟩) fun _ _ _ => ⟨rfl, rfl⟩

theorem ends_ensureCompiled {e : CompilerEngine} (sound : e.Sound) (w : World) :
    Act.Ends ensureCompiled (e, w)
      (fun c t => t.1 = { e with compilation := some c } ∧
        List.Forall₂ NamedAfter e.sources.paths c.outputs)
      (fun _ t => t.1 = e) := by
  cases state : e.compilation with
  | some c =>
    rw [ends_ensureCompiled_of_some state]
    exact ⟨by rw [← state], sound c state⟩
  | none =>
    rw [ends_ensureCompiled_of_none state]
    exact (ends_compile e w).mono (fun _ _ declared => ⟨rfl, declared⟩) fun _ _ _ => rfl

theorem ends_emit {e : CompilerEngine} (sound : e.Sound) (w : World) :
    Act.Ends emit (e, w)
      (fun _ t => ∃ c, t.1 = { e with compilation := some c } ∧ c.emitted ∧
        List.Forall₂ NamedAfter e.sources.paths c.outputs)
      (fun _ t => t.1 = e) := by
  unfold emit
  simp only [Act.ends_bind]
  refine (ends_ensureCompiled sound w).mono ?_ fun _ _ => id
  intro c t compiled
  obtain ⟨same, declared⟩ := compiled
  rw [Act.ends_modify]
  exact ⟨{ c with emitted := true }, by simp [same], rfl, declared⟩

theorem tracks : engine.Tracks Sound fun e => e.sources.Knows where
  create options w := by
    simp only [engine, Act.ends_bind, Act.ends_get, Act.ends_pure]
    exact sound_of_none rfl
  addText {e} _ p _ text w := by
    apply (ends_register p (.inMemory text) e w).mono
    · rintro id ⟨e', w'⟩ ⟨number, rfl⟩
      exact ⟨sound_of_none rfl, Sources.knows_insert number, fun _ _ known => known.insert _ _⟩
    · rintro _ ⟨e', w'⟩ ⟨-, -, rfl⟩
      exact ⟨sound_of_none rfl, fun _ _ known => known.insert _ _⟩
  addFile {e} sound p _ w := by
    refine (ends_addFile p e w).mono ?_ ?_
    · rintro id ⟨e', w'⟩ ⟨number, rfl⟩
      exact ⟨sound_of_none rfl, Sources.knows_insert number, fun _ _ known => known.insert _ _⟩
    · rintro _ ⟨e', w'⟩ (⟨same, -⟩ | ⟨-, -, rfl⟩)
      · cases same
        exact ⟨sound, fun _ _ => id⟩
      · exact ⟨sound_of_none rfl, fun _ _ known => known.insert _ _⟩
  diagnostics {e} sound w := by
    simp only [engine, Act.ends_bind, Act.ends_pure]
    refine (ends_ensureCompiled sound w).mono ?_ ?_
    · rintro c ⟨e', w'⟩ ⟨rfl, declared⟩
      refine ⟨?_, fun _ _ => id⟩
      rintro _ ⟨⟩
      exact declared
    · rintro _ ⟨e', w'⟩ rfl
      exact ⟨sound, fun _ _ => id⟩

theorem emitted?_of_emitted {e : CompilerEngine} {c : Compilation} (known : e.compilation = some c)
    (emitted : c.emitted) (declared : List.Forall₂ NamedAfter e.sources.paths c.outputs)
    {id : SourceId} {p : Path} (source : e.sources.paths[id.index]? = some p) :
    ∃ files, e.emitted? id = .ok files ∧ NamedAfter p files := by
  obtain ⟨bound, rfl⟩ := List.getElem?_eq_some_iff.mp source
  have bound' : id.index < c.outputs.length := declared.length_eq ▸ bound
  have kept : e.compilation.filter (·.emitted) = some c := by simp [known, emitted]
  refine ⟨c.outputs[id.index], ?_, declared.get bound bound'⟩
  unfold emitted?
  rw [kept]
  simp [List.getElem?_eq_getElem bound']

theorem declarationName?_append {ending : String} (known : ending ∈ Path.moduleEndings)
    (stem : String) :
    Staging.declarationName? (stem ++ ending) = none ∨
      Staging.declarationName? (stem ++ ending) = some (stem ++ ".d.ts") := by
  unfold Staging.declarationName?
  split
  · exact .inl rfl
  · right
    simp only [Path.moduleEndings, List.mem_cons, List.not_mem_nil, or_false] at known
    rcases known with rfl | rfl | rfl <;> simp [Text.dropTail?, Text.dropHead?]

theorem declares_of_namedAfter {p q : Path} {files : List EmittedFile} (module : p.IsModule)
    (same : q.same p) (named : NamedAfter q files) : p.Declares files := by
  intro d n stands
  obtain ⟨front, stem, ending, known, clean, -, stands', -⟩ := module.parts
  obtain ⟨rfl, rfl⟩ := stands'.unique stands
  have standsQ := stands.of_same (Path.same_iff.mp same)
  unfold NamedAfter Staging.declaredNames at named
  rw [standsQ.file, Option.bind_some] at named
  unfold Path.declaredName
  rw [Path.moduleStem_append known]
  rcases declarationName?_append known stem with none | some
  · rw [none] at named
    obtain rfl : files = [] := by simpa using named
    exact ⟨[], by simp, .nil⟩
  · rw [some] at named
    obtain ⟨names, inside, paths⟩ := List.sublist_map_iff.mp named
    refine ⟨names, inside, ?_⟩
    have named' : ∀ m ∈ names, IsName m := by
      intro m member
      rcases List.mem_pair.mp (inside.subset member) with rfl | rfl
      · exact isName_append_ending clean (by decide) (by decide)
      · rw [String.append_assoc]
        exact isName_append_ending clean (by decide) (by decide)
    have stand : List.Forall₂ (fun p m => p.StandsAt front.location m)
        (files.map EmittedFile.path) names := by
      rw [paths, List.forall₂_map_left_iff, List.forall₂_same]
      exact fun m member => standsQ.withFileName (named' m member)
    exact List.forall₂_map_left_iff.mp stand

theorem declaring : engine.Declaring := by
  refine ⟨_, _, tracks, ?_⟩
  intro e w sound
  refine (ends_emit sound w).mono ?_ fun _ _ _ => trivial
  rintro _ ⟨e', w'⟩ ⟨c, rfl, emitted, named⟩ id p module ⟨q, source, same⟩ files found
  obtain ⟨files', found', named'⟩ :=
    emitted?_of_emitted (e := { e with compilation := some c }) rfl emitted named source
  obtain rfl : files = files' := Except.ok.inj (found.symm.trans found')
  exact declares_of_namedAfter module same named'

end CompilerEngine

end DeclBundle
