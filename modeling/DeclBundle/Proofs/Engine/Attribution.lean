import DeclBundle.Proofs.Engine.Output
import Mathlib

namespace DeclBundle.CompilerEngine

open Staging

variable {e : CompilerEngine}

structure Registration where
  path : Path
  source : SourceText
  id : SourceId

/-- The engines that registrations lead to, with what was registered, the latest first. Worlds may change in
between, and diagnostics and emissions may be asked for at any time. -/
inductive Registered (options : ProjectOptions) (command : Path) :
    CompilerEngine → List Registration → Prop
  | start : Registered options command (withCommand options command) []
  | text {e e' : CompilerEngine} {rs : List Registration} (registered : Registered options command e rs)
    {p : Path} (normal : p.IsNormal) {text : String} {w w' : World} {id : SourceId}
    (run : engine.addText p text (e, w) = .ok id (e', w')) :
    Registered options command e' (⟨p, .inMemory text, id⟩ :: rs)
  | file {e e' : CompilerEngine} {rs : List Registration} (registered : Registered options command e rs)
    {p : Path} (normal : p.IsNormal) {w w' : World} {id : SourceId}
    (run : engine.addFile p (e, w) = .ok id (e', w')) :
    Registered options command e' (⟨p, .onDisk, id⟩ :: rs)
  | refused {e e' : CompilerEngine} {rs : List Registration}
    (registered : Registered options command e rs) {p : Path} {w w' : World} {error : Error}
    (run : engine.addFile p (e, w) = .error error (e', w')) (other : ∀ cause, error ≠ .tooManySources cause) :
    Registered options command e' rs
  | overrun {e e' : CompilerEngine} {rs : List Registration}
    (registered : Registered options command e rs) {p : Path} (normal : p.IsNormal) {w w' : World}
    {cause : Error} (run : engine.addFile p (e, w) = .error (.tooManySources cause) (e', w') ∨
      ∃ text, engine.addText p text (e, w) = .error (.tooManySources cause) (e', w')) :
    Registered options command e' rs
  | emitted {e : CompilerEngine} {rs : List Registration}
    (registered : Registered options command e rs) (w : World) :
    Registered options command (engine.emit.outcome (e, w)).2.1 rs
  | surveyed {e : CompilerEngine} {rs : List Registration}
    (registered : Registered options command e rs) (w : World) :
    Registered options command (engine.diagnostics.outcome (e, w)).2.1 rs

def latest? (rs : List Registration) (p : Path) : Option Registration :=
  rs.find? fun r => r.path.same p

def HoldsLatest (s : Sources SourceText) (rs : List Registration) : Prop :=
  ∀ p r, latest? rs p = some r → ∃ q, s.entries[r.id.index]? = some (q, r.source) ∧ q.same p

theorem HoldsLatest.insert {s : Sources SourceText} {rs : List Registration}
    (holds : HoldsLatest s rs) {p : Path} {text : SourceText} {id : SourceId}
    (number : SourceId.ofIndex (s.insert p text).2 = .ok id) :
    HoldsLatest (s.insert p text).1 (⟨p, text, id⟩ :: rs) := by
  obtain ⟨-, rfl⟩ := SourceId.ofIndex_eq_ok_iff.mp number
  intro p' r latest
  unfold latest? at latest
  by_cases same : p.same p'
  · rw [List.find?_cons_of_pos (by exact same)] at latest
    cases latest
    obtain ⟨q, same', entry⟩ := s.getElem?_insert p text
    exact ⟨q, entry, Path.same_trans same' same⟩
  · rw [List.find?_cons_of_neg (by exact same)] at latest
    obtain ⟨q, entry, same'⟩ := holds p' r latest
    have apart : ¬q.same p := fun other => same (Path.same_trans (Path.same_symm other) same')
    have other := Sources.index_ne_of_not_same (x := text) entry apart
    exact ⟨q, s.getElem?_insert_of_ne p text entry other, same'⟩

theorem HoldsLatest.overrun {s : Sources SourceText} {rs : List Registration}
    (holds : HoldsLatest s rs) (below : ∀ r ∈ rs, r.id.index < SourceId.limit) {p : Path}
    {text : SourceText} (beyond : SourceId.limit ≤ (s.insert p text).2) :
    HoldsLatest (s.insert p text).1 rs := by
  intro p' r latest
  obtain ⟨q, entry, same⟩ := holds p' r latest
  have other := Nat.ne_of_lt ((below r (List.mem_of_find?_eq_some latest)).trans_le beyond)
  exact ⟨q, s.getElem?_insert_of_ne p text entry other, same⟩

structure Registers (options : ProjectOptions) (rs : List Registration) (e : CompilerEngine) :
    Prop where
  options_eq : e.options = options
  normal : ∀ q ∈ e.sources.paths, q.IsNormal
  below : ∀ r ∈ rs, r.id.index < SourceId.limit
  known : HoldsLatest e.sources rs

theorem Registers.enter {options : ProjectOptions} {rs : List Registration}
    (registers : Registers options rs e) {p : Path} (normal : p.IsNormal) {text : SourceText}
    {id : SourceId} (number : SourceId.ofIndex (e.sources.insert p text).2 = .ok id) :
    Registers options (⟨p, text, id⟩ :: rs) (e.enter p text) where
  options_eq := registers.options_eq
  normal := Sources.forall_paths_insert registers.normal normal text
  below := by
    obtain ⟨below, rfl⟩ := SourceId.ofIndex_eq_ok_iff.mp number
    exact List.forall_mem_cons.mpr ⟨below, registers.below⟩
  known := registers.known.insert number

theorem Registers.overrun {options : ProjectOptions} {rs : List Registration}
    (registers : Registers options rs e) {p : Path} (normal : p.IsNormal) {text : SourceText}
    {error : Error} {e' : CompilerEngine} (overruns : Overruns e p text error e') :
    Registers options rs e' := by
  obtain ⟨beyond, -, rfl⟩ := overruns
  exact ⟨registers.options_eq, Sources.forall_paths_insert registers.normal normal text, registers.below,
    registers.known.overrun registers.below beyond⟩

theorem Registers.of_same {options : ProjectOptions} {rs : List Registration}
    (registers : Registers options rs e) {e' : CompilerEngine}
    (same : e'.options = e.options ∧ e'.sources = e.sources) : Registers options rs e' where
  options_eq := same.1.trans registers.options_eq
  normal := same.2 ▸ registers.normal
  below := registers.below
  known := same.2 ▸ registers.known

theorem Registered.registers {options : ProjectOptions} {command : Path}
    {rs : List Registration} (registered : Registered options command e rs) :
    Registers options rs e := by
  induction registered with
  | start => exact ⟨rfl, by simp [withCommand, Sources.paths, Sources.empty], nofun, by simp [HoldsLatest, latest?]⟩
  | text _ normal run ih =>
    obtain ⟨number, rfl⟩ := (ends_register ..).ok run
    exact ih.enter normal number
  | file _ normal run ih =>
    obtain ⟨number, rfl⟩ := (ends_addFile ..).ok run
    exact ih.enter normal number
  | refused _ run other ih =>
    rcases (ends_addFile ..).error run with ⟨same, -⟩ | overruns
    · cases same
      exact ih
    · exact absurd overruns.told (other _)
  | overrun _ normal run ih =>
    rcases run with run | ⟨text, run⟩
    · rcases (ends_addFile ..).error run with ⟨-, other⟩ | overruns
      · exact absurd rfl (other _)
      · exact ih.overrun normal overruns
    · exact ih.overrun normal ((ends_register ..).error run)
  | @emitted e rs _ w ih =>
    apply ih.of_same
    have ends : Act.Ends emit (e, w) (fun _ t => t.1.options = e.options ∧ t.1.sources = e.sources)
        (fun _ t => t.1.options = e.options ∧ t.1.sources = e.sources) := by
      simp only [emit, Act.ends_bind, Act.ends_modify]
      exact ends_ensureCompiled_same e w
    exact ends.outcome
  | @surveyed e rs _ w ih =>
    apply ih.of_same
    have ends : Act.Ends engine.diagnostics (e, w)
        (fun _ t => t.1.options = e.options ∧ t.1.sources = e.sources)
        (fun _ t => t.1.options = e.options ∧ t.1.sources = e.sources) := by
      simp only [engine, Act.ends_bind, Act.ends_pure]
      exact ends_ensureCompiled_same e w
    exact ends.outcome

theorem zip_compiledIn (e : CompilerEngine) (staging : Path) :
    e.sources.paths.zip (compiledIn e staging) = e.sources.entries.map fun source =>
      (source.1, compiledPath e.options.root (staging.join "overlay") source) :=
  List.zip_map' ..

/-- The compiler was run on what was prepared. Either it has failed or some output is no text, or the output
was read for all sources. -/
theorem exists_prepared (rootNormal : e.options.root.IsNormal)
    (normal : ∀ p ∈ e.sources.paths, p.IsNormal) (survey : Bool) {w w' : World}
    (grounded : w.tree.Grounded) {result : Except Error Unit} {e' : CompilerEngine}
    (run : (emission survey).outcome (e, w) = (result, e', w')) {call : Call}
    (calls : w'.calls = w.calls ++ [call]) :
    ∃ staging, Prepared e w.directory staging call ∧
      (((w.outcomeOf call).status ≠ 0 ∨ ∃ source ∈ e.sources.paths.zip (compiledIn e staging),
          ∃ name ∈ declaredNames source.1,
            let p := (outputBeside e staging source.2).withFileName name
            (w.afterwards call).isFile p ∧ (w.afterwards call).textAt? p = none) ∨
        result = .ok () ∧ ∃ c : Compilation, e'.compilation = some { c with emitted := true } ∧
          c.outputs = (e.sources.paths.zip (compiledIn e staging)).map fun (logical, compiled) =>
            filesAt (w.afterwards call) logical (outputBeside e staging compiled)
              (declaredNames logical)) := by
  have launched := launches_emission rootNormal normal grounded survey
  have started : w'.calls ≠ w.calls := by simp [calls]
  have same {call' : Call} (calls' : w'.calls = w.calls ++ [call']) : call' = call :=
    List.singleton_inj.mp (List.append_cancel_left (calls'.symm.trans calls))
  unfold Act.outcome at run
  cases ran : emission survey (e, w) with
  | error error t =>
    rw [ran] at run
    cases run
    rcases launched.error ran with idle | ⟨staging, call', prepared, calls', failed⟩
    · exact absurd idle started
    · obtain rfl := same calls'
      exact ⟨staging, prepared, .inl failed⟩
  | ok _ t =>
    rw [ran] at run
    cases run
    rcases launched.ok ran with idle | ⟨c, kept, staging, call', prepared, calls', outputs⟩
    · exact absurd idle started
    · obtain rfl := same calls'
      exact ⟨staging, prepared, .inr ⟨rfl, c, kept, outputs⟩⟩

theorem Prepared.attributed {here : Place} {staging : Path} {call : Call}
    (prepared : Prepared e here staging call) (rootNormal : e.options.root.IsNormal)
    (normal : ∀ p ∈ e.sources.paths, p.IsNormal) {t : FileTree}
    {written : Path → Option (String × Option String)}
    (adds : call.tree.Adds here t
      (outputFiles (outputIn staging) (baseIn e staging) written (compiledIn e staging)))
    (apart : Apart (outputIn staging) (baseIn e staging) (compiledIn e staging)) {w : World}
    (tree : w.tree = t) (directory : w.directory = here) :
    ((e.sources.paths.zip (compiledIn e staging)).map fun (logical, compiled) =>
        filesAt w logical (outputBeside e staging compiled) (declaredNames logical)) =
      e.sources.entries.map fun source => filesFor source.1.withFileName (declared? source.1)
        (written (compiledPath e.options.root (staging.join "overlay") source)) := by
  rw [zip_compiledIn, List.map_map]
  apply List.map_congr_left
  intro source member
  exact prepared.filesAt_eq rootNormal normal adds apart tree directory (List.mem_map_of_mem member)
    (prepared.alike rootNormal normal member)

def pageTree : FileTree :=
  ⟨[(["bin"], .directory), (["bin", "tsc"], .file .empty true), (["proj"], .directory),
    (["proj", "page.ts"], .file .empty false), (["tmp"], .directory)]⟩

def pageWorld : World :=
  { tree := pageTree
    directory := ["proj"]
    environment := []
    compiler := fun _ _ t =>
      ⟨(t.put ["tmp", "dtsemit-STAGE", "out"] .directory).put
        ["tmp", "dtsemit-STAGE", "out", "page.d.ts"] (.file "export {};".toUTF8 false), .empty, .empty, 0⟩ }

def pageOptions : ProjectOptions := ⟨"/proj", "/proj/tsconfig.json", true, ∅⟩

theorem grounded_page : pageTree.Grounded := by
  apply FileTree.grounded_of_entries
  intro place e member
  simp only [pageTree, List.mem_cons, Prod.mk.injEq, List.not_mem_nil, or_false] at member
  rcases member with ⟨rfl, rfl⟩ | ⟨rfl, rfl⟩ | ⟨rfl, rfl⟩ | ⟨rfl, rfl⟩ | ⟨rfl, rfl⟩ <;> rfl

theorem find_page : pageTree.find ["proj"] "/proj/page.ts" = .ok (["proj", "page.ts"], .file .empty false) :=
  grounded_page.find_found (by decide) rfl nofun

theorem makeFresh_page : pageTree.makeFresh ["proj"] (Path.mk "/tmp") "dtsemit-" =
    (Path.mk "/tmp/dtsemit-STAGE", .ok (pageTree.put ["tmp", "dtsemit-STAGE"] .directory)) :=
  grounded_page.makeFresh_missing ["tmp"] "dtsemit-STAGE" (by decide) rfl rfl (by decide)

theorem unpacked_page : pageTree.isDirectory ["proj"] ((Path.mk "/proj").join "node_modules") = false :=
  grounded_page.isDirectory_missing ["proj"] "node_modules" (by decide) rfl rfl

def twinEngine (name : String) : CompilerEngine :=
  ⟨pageOptions, "/bin/tsc",
    ⟨[(⟨"/proj/__external__/" ++ name⟩, .inMemory "1"), ("/a.ts", .inMemory "2")]⟩, none⟩

def twinOpened : FileTree := pageTree.put ["tmp", "dtsemit-STAGE"] .directory

def twinOverlay : FileTree := twinOpened.put ["tmp", "dtsemit-STAGE", "overlay"] .directory

def twinExternal : FileTree := twinOverlay.put ["tmp", "dtsemit-STAGE", "overlay", "__external__"] .directory

def twinFirst (name : String) (first : ByteArray) : FileTree :=
  twinExternal.put ["tmp", "dtsemit-STAGE", "overlay", "__external__", name] (.file first false)

def twinBoth (name : String) (first second : ByteArray) : FileTree :=
  (twinFirst name first).put ["tmp", "dtsemit-STAGE", "overlay", "__external__", "a.ts"] (.file second false)

def twinStage (name : String) (first second bytes : ByteArray) : FileTree :=
  (twinBoth name first second).put ["tmp", "dtsemit-STAGE", "tsconfig.json"] (.file bytes false)

theorem grounded_twinOpened : twinOpened.Grounded := grounded_page.put ["tmp"] "dtsemit-STAGE" rfl nofun _

theorem grounded_twinOverlay : twinOverlay.Grounded :=
  grounded_twinOpened.put ["tmp", "dtsemit-STAGE"] "overlay" rfl nofun _

theorem grounded_twinExternal : twinExternal.Grounded :=
  grounded_twinOverlay.put ["tmp", "dtsemit-STAGE", "overlay"] "__external__" rfl nofun _

theorem grounded_twinFirst (name : String) (first : ByteArray) : (twinFirst name first).Grounded :=
  grounded_twinExternal.put ["tmp", "dtsemit-STAGE", "overlay", "__external__"] name rfl nofun _

section Twins

variable {name : String} (known : name ∈ ["a.ts", "b.ts"])

include known

theorem grounded_twinBoth (first second : ByteArray) : (twinBoth name first second).Grounded := by
  have other : FileTree.entry? (twinFirst name first) ["tmp", "dtsemit-STAGE", "overlay", "__external__", "a.ts"] ≠
      some .directory := by
    intro found
    rcases List.mem_pair.mp known with rfl | rfl <;> cases found
  exact (grounded_twinFirst name first).put ["tmp", "dtsemit-STAGE", "overlay", "__external__"] "a.ts" rfl other _

theorem grounded_twinStage (first second bytes : ByteArray) : (twinStage name first second bytes).Grounded := by
  rcases List.mem_pair.mp known with rfl | rfl
  all_goals exact (grounded_twinBoth known first second).put ["tmp", "dtsemit-STAGE"] "tsconfig.json" rfl nofun _

theorem write_twinFirst (first : ByteArray) :
    twinExternal.write ["proj"] ⟨"/tmp/dtsemit-STAGE/overlay/__external__/" ++ name⟩ first =
      .ok (twinFirst name first) := by
  refine grounded_twinExternal.write_missing ["tmp", "dtsemit-STAGE", "overlay", "__external__"] name ?_ rfl rfl first
  rcases List.mem_pair.mp known with rfl | rfl <;> decide

theorem write_twinBoth (first second : ByteArray) :
    (twinFirst name first).write ["proj"] "/tmp/dtsemit-STAGE/overlay/__external__/a.ts" second =
      .ok (twinBoth name first second) := by
  have spells : FileTree.Spells "/tmp/dtsemit-STAGE/overlay/__external__/a.ts"
    ["tmp", "dtsemit-STAGE", "overlay", "__external__", "a.ts"] := by decide
  rcases List.mem_pair.mp known with rfl | rfl
  · have found : (twinFirst "a.ts" first).resolve ["proj"] "/tmp/dtsemit-STAGE/overlay/__external__/a.ts" true =
        .ok (.found ["tmp", "dtsemit-STAGE", "overlay", "__external__", "a.ts"] (.file first false)) :=
      (grounded_twinFirst "a.ts" first).resolve_found spells rfl nofun true
    unfold FileTree.write
    rw [found]
    rfl
  · exact (grounded_twinFirst "b.ts" first).write_missing ["tmp", "dtsemit-STAGE", "overlay", "__external__"] "a.ts"
      spells rfl rfl second

theorem write_twins (first second bytes : ByteArray) :
    (twinBoth name first second).write ["proj"] (Path.join "/tmp/dtsemit-STAGE" "tsconfig.json") bytes =
      .ok (twinStage name first second bytes) := by
  have spells : FileTree.Spells (Path.join "/tmp/dtsemit-STAGE" "tsconfig.json")
    ["tmp", "dtsemit-STAGE", "tsconfig.json"] := by decide
  have grounded := grounded_twinBoth known first second
  rcases List.mem_pair.mp known with rfl | rfl
  all_goals exact grounded.write_missing ["tmp", "dtsemit-STAGE"] "tsconfig.json" spells rfl rfl bytes

theorem find_twins (first second bytes : ByteArray) :
    (twinStage name first second bytes).find ["proj"] "/proj" = .ok (["proj"], .directory) ∧
      (twinStage name first second bytes).find ["proj"] "/bin/tsc" =
        .ok (["bin", "tsc"], .file .empty true) := by
  have grounded := grounded_twinStage known first second bytes
  rcases List.mem_pair.mp known with rfl | rfl
  all_goals exact ⟨grounded.find_found (by decide) rfl nofun, grounded.find_found (by decide) rfl nofun⟩

end Twins

theorem makePath_twins :
    twinOpened.makePath ["proj"] "/tmp/dtsemit-STAGE/overlay/__external__" = (.ok (), twinExternal) := by
  have parent : (Path.mk "/tmp/dtsemit-STAGE/overlay/__external__").parent? =
    some (Path.mk "/tmp/dtsemit-STAGE/overlay") := by decide
  have parent' : (Path.mk "/tmp/dtsemit-STAGE/overlay").parent? = some (Path.mk "/tmp/dtsemit-STAGE") := by
    decide
  have stuck : twinOpened.makeDirectory ["proj"] "/tmp/dtsemit-STAGE/overlay/__external__" =
      .error .notFound := by
    unfold FileTree.makeDirectory
    rw [(grounded_twinOpened.find_stuck ["tmp", "dtsemit-STAGE"] "overlay" "__external__" [] (by decide) rfl rfl
      false).1]
  have made : twinOpened.makeDirectory ["proj"] "/tmp/dtsemit-STAGE/overlay" = .ok twinOverlay :=
    grounded_twinOpened.makeDirectory_missing ["tmp", "dtsemit-STAGE"] "overlay" (by decide) rfl rfl
  have made' : twinOverlay.makeDirectory ["proj"] "/tmp/dtsemit-STAGE/overlay/__external__" = .ok twinExternal :=
    grounded_twinOverlay.makeDirectory_missing ["tmp", "dtsemit-STAGE", "overlay"] "__external__" (by decide)
      rfl rfl
  exact FileTree.makeDirectories_of_deep parent (by decide) stuck
    (FileTree.makeDirectories_of_new 38 parent' made) made'

theorem makePath_twinFirst (name : String) (first : ByteArray) :
    (twinFirst name first).makePath ["proj"] "/tmp/dtsemit-STAGE/overlay/__external__" =
      (.ok (), twinFirst name first) := by
  have parent : (Path.mk "/tmp/dtsemit-STAGE/overlay/__external__").parent? =
    some (Path.mk "/tmp/dtsemit-STAGE/overlay") := by decide
  have found (follow : Bool) : (twinFirst name first).resolve ["proj"] "/tmp/dtsemit-STAGE/overlay/__external__"
      follow = .ok (.found ["tmp", "dtsemit-STAGE", "overlay", "__external__"] .directory) :=
    (grounded_twinFirst name first).resolve_found (by decide) rfl (by simp) follow
  have old : (twinFirst name first).makeDirectory ["proj"] "/tmp/dtsemit-STAGE/overlay/__external__" =
      .error .alreadyExists := by
    unfold FileTree.makeDirectory
    rw [found]
  have stands : (twinFirst name first).isDirectory ["proj"] "/tmp/dtsemit-STAGE/overlay/__external__" := by
    unfold FileTree.isDirectory FileTree.find
    rw [found]
  exact FileTree.makeDirectories_of_old 39 parent old stands

theorem arranged_twins {name : String} (known : name ∈ ["a.ts", "b.ts"]) (more : List (Path × SourceText))
    (onDisk : ∀ source ∈ more, source.2 = .onDisk) (compiler : Nat → Invocation → FileTree → Outcome) :
    Arranged { twinEngine name with sources := ⟨(twinEngine name).sources.entries ++ more⟩ }
      { pageWorld with compiler := compiler } "/tmp/dtsemit-STAGE" ["proj"]
      (twinStage name "1".toUTF8 "2".toUTF8) := by
  have place : ((Path.mk "/tmp/dtsemit-STAGE").join "overlay").join
      (relative "/proj" ⟨"/proj/__external__/" ++ name⟩) =
        ⟨"/tmp/dtsemit-STAGE/overlay/__external__/" ++ name⟩ := by
    rcases List.mem_pair.mp known with rfl | rfl <;> decide
  have place' : ((Path.mk "/tmp/dtsemit-STAGE").join "overlay").join (relative "/proj" "/a.ts") =
      "/tmp/dtsemit-STAGE/overlay/__external__/a.ts" := by decide
  have parent : (Path.mk ("/tmp/dtsemit-STAGE/overlay/__external__/" ++ name)).parent? =
      some (Path.mk "/tmp/dtsemit-STAGE/overlay/__external__") := by
    rcases List.mem_pair.mp known with rfl | rfl <;> decide
  have parent' : (Path.mk "/tmp/dtsemit-STAGE/overlay/__external__/a.ts").parent? =
      some (Path.mk "/tmp/dtsemit-STAGE/overlay/__external__") := by decide
  have temporary : pageWorld.temporaryDirectory.isRooted := rfl
  have slash : '/' ∈ "/bin/tsc".toList := by decide
  refine ⟨rfl, rfl, unpacked_page, temporary, ⟨twinOpened, twinBoth name "1".toUTF8 "2".toUTF8, makeFresh_page, ?_,
    write_twins known _ _⟩, fun bytes => (find_twins known ..).1, slash,
    fun bytes => ⟨_, _, (find_twins known ..).2⟩⟩
  refine ends_stageSources_of_write place parent makePath_twins (write_twinFirst known _) ?_
  refine ends_stageSources_of_write place' parent' (makePath_twinFirst name _) (write_twinBoth known _ _) ?_
  exact ends_stageSources_onDisk _ _ onDisk _

def besideWritten (c : Path) : Option (String × Option String) :=
  some (c.text, if c = "/proj/page.ts" then some "map" else none)

def besideOutput (b a page map : ByteArray) : List (Place × Entry) :=
  [(["tmp", "dtsemit-STAGE", "out"], .directory), (["tmp", "dtsemit-STAGE", "out", "tmp"], .directory),
    (["tmp", "dtsemit-STAGE", "out", "tmp", "dtsemit-STAGE"], .directory),
    (["tmp", "dtsemit-STAGE", "out", "tmp", "dtsemit-STAGE", "overlay"], .directory),
    (["tmp", "dtsemit-STAGE", "out", "tmp", "dtsemit-STAGE", "overlay", "__external__"], .directory),
    (["tmp", "dtsemit-STAGE", "out", "tmp", "dtsemit-STAGE", "overlay", "__external__", "b.d.ts"], .file b false),
    (["tmp", "dtsemit-STAGE", "out", "tmp", "dtsemit-STAGE", "overlay", "__external__", "a.d.ts"], .file a false),
    (["tmp", "dtsemit-STAGE", "out", "proj"], .directory),
    (["tmp", "dtsemit-STAGE", "out", "proj", "page.d.ts"], .file page false),
    (["tmp", "dtsemit-STAGE", "out", "proj", "page.d.ts.map"], .file map false)]

def besideFiles : List EmittedFile :=
  [⟨"/tmp/dtsemit-STAGE/out/tmp/dtsemit-STAGE/overlay/__external__/b.d.ts",
      "/tmp/dtsemit-STAGE/overlay/__external__/b.ts"⟩,
    ⟨"/tmp/dtsemit-STAGE/out/tmp/dtsemit-STAGE/overlay/__external__/a.d.ts",
      "/tmp/dtsemit-STAGE/overlay/__external__/a.ts"⟩,
    ⟨"/tmp/dtsemit-STAGE/out/proj/page.d.ts", "/proj/page.ts"⟩,
    ⟨"/tmp/dtsemit-STAGE/out/proj/page.d.ts.map", "map"⟩]

def besideWorld : World :=
  { pageWorld with
    compiler := fun _ _ t => ⟨t.extend (besideOutput "/tmp/dtsemit-STAGE/overlay/__external__/b.ts".toUTF8
      "/tmp/dtsemit-STAGE/overlay/__external__/a.ts".toUTF8 "/proj/page.ts".toUTF8 "map".toUTF8),
        .empty, .empty, 0⟩ }

def besideEngine : CompilerEngine :=
  { twinEngine "b.ts" with
    sources := ⟨(twinEngine "b.ts").sources.entries ++ [(Path.mk "/proj/page.ts", .onDisk)]⟩ }

theorem find_beside (first second bytes b a page map : ByteArray) :
    let t := (twinStage "b.ts" first second bytes).extend (besideOutput b a page map)
    let out := ["tmp", "dtsemit-STAGE", "out"]
    let external := out ++ ["tmp", "dtsemit-STAGE", "overlay", "__external__"]
    t.find ["proj"] "/tmp/dtsemit-STAGE/out/tmp/dtsemit-STAGE/overlay/__external__/b.d.ts" =
        .ok (external ++ ["b.d.ts"], .file b false) ∧
      t.find ["proj"] "/tmp/dtsemit-STAGE/out/tmp/dtsemit-STAGE/overlay/__external__/a.d.ts" =
        .ok (external ++ ["a.d.ts"], .file a false) ∧
      t.find ["proj"] "/tmp/dtsemit-STAGE/out/proj/page.d.ts" =
        .ok (out ++ ["proj", "page.d.ts"], .file page false) ∧
      t.find ["proj"] "/tmp/dtsemit-STAGE/out/proj/page.d.ts.map" =
        .ok (out ++ ["proj", "page.d.ts.map"], .file map false) := by
  have grounded : ((twinStage "b.ts" first second bytes).extend (besideOutput b a page map)).Grounded := by
    refine (grounded_twinStage (by decide) first second bytes).extend ?_
    simp only [besideOutput, List.forall_mem_cons]
    exact ⟨rfl, rfl, rfl, rfl, rfl, rfl, rfl, rfl, rfl, rfl, nofun⟩
  refine ⟨?_, ?_, ?_, ?_⟩
  all_goals exact grounded.find_found (by decide) rfl nofun

theorem adds_beside (bytes : ByteArray) :
    (twinStage "b.ts" "1".toUTF8 "2".toUTF8 bytes).Adds ["proj"] (besideWorld.outcomeOf
      (startIn besideEngine "/tmp/dtsemit-STAGE" ["proj"] (twinStage "b.ts" "1".toUTF8 "2".toUTF8 bytes))).tree
      (outputFiles "/tmp/dtsemit-STAGE/out" "/" besideWritten
        [Path.mk "/tmp/dtsemit-STAGE/overlay/__external__/b.ts",
          Path.mk "/tmp/dtsemit-STAGE/overlay/__external__/a.ts", Path.mk "/proj/page.ts"]) := by
  have files : outputFiles "/tmp/dtsemit-STAGE/out" "/" besideWritten
      [Path.mk "/tmp/dtsemit-STAGE/overlay/__external__/b.ts",
        Path.mk "/tmp/dtsemit-STAGE/overlay/__external__/a.ts", Path.mk "/proj/page.ts"] = besideFiles := by
    decide
  obtain ⟨foundB, foundA, foundPage, foundMap⟩ := find_beside "1".toUTF8 "2".toUTF8 bytes
    "/tmp/dtsemit-STAGE/overlay/__external__/b.ts".toUTF8
    "/tmp/dtsemit-STAGE/overlay/__external__/a.ts".toUTF8 "/proj/page.ts".toUTF8 "map".toUTF8
  rw [files]
  refine FileTree.adds_extend ?_ ?_
  · simp only [besideFiles, List.forall_mem_cons, List.not_mem_nil, false_implies, implies_true, and_true]
    exact ⟨⟨_, foundB⟩, ⟨_, foundA⟩, ⟨_, foundPage⟩, ⟨_, foundMap⟩⟩
  · simp only [besideOutput, besideFiles, List.forall_mem_cons, List.exists_mem_cons_iff]
    exact ⟨.inl trivial, .inl trivial, .inl trivial, .inl trivial, .inl trivial, .inr (.inl foundB),
      .inr (.inr (.inl foundA)), .inl trivial, .inr (.inr (.inr (.inl foundPage))),
      .inr (.inr (.inr (.inr (.inl foundMap)))), nofun⟩

theorem calls_beside : ∃ bytes, ((emission false).outcome (besideEngine, besideWorld)).2.2.calls =
    [startIn besideEngine "/tmp/dtsemit-STAGE" ["proj"] (twinStage "b.ts" "1".toUTF8 "2".toUTF8 bytes)] := by
  have arranged : Arranged besideEngine besideWorld "/tmp/dtsemit-STAGE" ["proj"] _ :=
    arranged_twins (by decide) _ (by simp) besideWorld.compiler
  have ends := arranged.calls_ensureCompiled
  have emits : Act.Ends (emission false) (besideEngine, besideWorld)
      (fun _ u => ∃ bytes, u.2.calls = besideWorld.calls ++ [startIn besideEngine "/tmp/dtsemit-STAGE" ["proj"]
        (twinStage "b.ts" "1".toUTF8 "2".toUTF8 bytes)])
      fun _ u => ∃ bytes, u.2.calls = besideWorld.calls ++ [startIn besideEngine "/tmp/dtsemit-STAGE" ["proj"]
        (twinStage "b.ts" "1".toUTF8 "2".toUTF8 bytes)] := by
    unfold emission
    simpa only [Bool.false_eq_true, if_false, engine, emit, Act.ends_bind, Act.ends_modify] using ends
  exact emits.outcome

theorem registered_beside : Registered pageOptions "/bin/tsc" besideEngine
    [⟨"/proj/page.ts", .onDisk, ⟨2⟩⟩, ⟨"/proj/__external__/b.ts", .inMemory "1", ⟨0⟩⟩,
      ⟨"/a.ts", .inMemory "2", ⟨1⟩⟩, ⟨"/proj/__external__/b.ts", .inMemory "0", ⟨0⟩⟩] := by
  have normal : Path.IsNormal "/proj/__external__/b.ts" := ⟨by decide, by decide⟩
  have normal' : Path.IsNormal "/a.ts" := ⟨by decide, by decide⟩
  have normal'' : Path.IsNormal "/proj/page.ts" := ⟨by decide, by decide⟩
  have page : engine.addFile "/proj/page.ts" (twinEngine "b.ts", pageWorld) =
      .ok ⟨2⟩ (besideEngine, pageWorld) := by
    have found : pageWorld.tree.find pageWorld.directory "/proj/page.ts" = _ := find_page
    simp only [engine, addFile, Bind.bind, EStateM.bind, get, getThe, MonadStateOf.get, EStateM.get, found]
    rfl
  exact .file (.text (.text (.text .start normal (w := pageWorld) rfl) normal' (w := pageWorld) rfl) normal
    (w := pageWorld) rfl) normal'' page

/-- After a good run of the compiler, every source has the declarations, and the map, that were written for the
file that it was compiled as. -/
theorem emitted_of_compiled {options : ProjectOptions} {command : Path}
    {rs : List Registration} (registered : Registered options command e rs)
    (rootNormal : options.root.IsNormal) (survey : Bool) {w w' : World} (grounded : w.tree.Grounded)
    {result : Except Error Unit} {e' : CompilerEngine}
    (run : (emission survey).outcome (e, w) = (result, e', w')) {call : Call}
    (calls : w'.calls = w.calls ++ [call]) :
    ∃ staging extending,
      let project := staging.join "tsconfig.json"
      let files := compiledIn e staging
      let config := tsconfig e.options extending e.sources.paths (layoutIn e staging) files
      call.invocation.arguments = ["--project", project.text, "--pretty", "false"] ∧
      call.tree.readText w.directory project = .ok (Json.indented 0 config) ∧
      Configures config files (outputIn staging) (baseIn e staging) ∧
      (∀ c ∈ files, ∀ n, c.fileName? = some n → (baseIn e staging).Inside c) ∧
      ∀ written : Path → Option (String × Option String),
        (w.outcomeOf call).status = 0 →
        call.tree.Adds w.directory (w.outcomeOf call).tree
          (outputFiles (outputIn staging) (baseIn e staging) written files) →
        (files.Pairwise fun c c' => ¬c.same c') →
        Apart (outputIn staging) (baseIn e staging) files →
        result = .ok () ∧ ∀ p r, latest? rs p = some r → ∃ q c,
          q.same p ∧ files[r.id.index]? = some c ∧ (r.source = .onDisk → c = q) ∧
          (∀ text, r.source = .inMemory text → call.tree.readText w.directory c = .ok text) ∧
          engine.emitted e' r.id = .ok (filesFor q.withFileName (declared? q) (written c)) := by
  obtain ⟨rfl, normal, -, known⟩ := registered.registers
  obtain ⟨staging, prepared, ended⟩ := exists_prepared rootNormal normal survey grounded run calls
  obtain ⟨extending, config⟩ := prepared.config
  refine ⟨staging, extending, prepared.arguments, config, configures_tsconfig .., ?_, ?_⟩
  · intro c member n file
    obtain ⟨ns, place⟩ := prepared.above rootNormal normal member file
    exact ⟨ns ++ [n], by simp, place⟩
  · intro written status adds distinct apart
    -- The compiler fails, leaves something that is no text, or its output is read for all sources.
    rcases ended with (failed | ⟨source, member, name, named, file, unread⟩) | ⟨done, c, kept, outputs⟩
    · exact absurd status failed
    · rw [zip_compiledIn] at member
      obtain ⟨source, inside, rfl⟩ := List.mem_map.mp member
      have read := prepared.not_unread rootNormal normal adds (w := w.afterwards call) rfl rfl
        (List.mem_map_of_mem inside) (prepared.alike rootNormal normal inside) named file
      exact absurd unread read
    · refine ⟨done, fun p r latest => ?_⟩
      obtain ⟨q, entry, same⟩ := known p r latest
      refine ⟨q, compiledPath e.options.root (staging.join "overlay") (q, r.source), same, ?_, ?_, ?_, ?_⟩
      · rw [compiledIn, List.getElem?_map, entry, Option.map_some]
      · intro onDisk
        rw [onDisk]
        rfl
      · intro text inMemory
        rw [inMemory] at entry ⊢
        exact (prepared.staged q text (List.mem_of_getElem? entry)).2 distinct
      · have read := prepared.attributed rootNormal normal adds apart (w := w.afterwards call) rfl rfl
        have output : c.outputs[r.id.index]? = some (filesFor q.withFileName (declared? q)
            (written (compiledPath e.options.root (staging.join "overlay") (q, r.source)))) := by
          rw [outputs, read, List.getElem?_map, entry, Option.map_some]
        simp only [engine, emitted?, kept, Option.filter_some, if_true, output]

theorem emitted_of_compiled_beside :
    Registered pageOptions "/bin/tsc" besideEngine
      [⟨"/proj/page.ts", .onDisk, ⟨2⟩⟩, ⟨"/proj/__external__/b.ts", .inMemory "1", ⟨0⟩⟩,
        ⟨"/a.ts", .inMemory "2", ⟨1⟩⟩, ⟨"/proj/__external__/b.ts", .inMemory "0", ⟨0⟩⟩] ∧
      pageOptions.root.IsNormal ∧ besideWorld.tree.Grounded ∧
      ∃ (call : Call) (e' : CompilerEngine) (w' : World) (b a : Path),
        (emission false).outcome (besideEngine, besideWorld) = (.ok (), e', w') ∧
        w'.calls = [call] ∧ b.same "/proj/__external__/b.ts" ∧ a.same "/a.ts" ∧
        call.tree.readText ["proj"] "/tmp/dtsemit-STAGE/overlay/__external__/b.ts" = .ok "1" ∧
        call.tree.readText ["proj"] "/tmp/dtsemit-STAGE/overlay/__external__/a.ts" = .ok "2" ∧
        engine.emitted e' ⟨0⟩ =
          .ok [⟨b.withFileName "b.d.ts", "/tmp/dtsemit-STAGE/overlay/__external__/b.ts"⟩] ∧
        engine.emitted e' ⟨1⟩ =
          .ok [⟨a.withFileName "a.d.ts", "/tmp/dtsemit-STAGE/overlay/__external__/a.ts"⟩] ∧
        engine.emitted e' ⟨2⟩ =
          .ok [⟨"/proj/page.d.ts", "/proj/page.ts"⟩, ⟨"/proj/page.d.ts.map", "map"⟩] := by
  have rootNormal : pageOptions.root.IsNormal := ⟨by decide, by decide⟩
  refine ⟨registered_beside, rootNormal, grounded_page, ?_⟩
  obtain ⟨bytes, calls⟩ := calls_beside
  cases run : (emission false).outcome (besideEngine, besideWorld) with
  | mk result after =>
  obtain ⟨e', w'⟩ := after
  rw [run] at calls
  obtain ⟨staging, extending, arguments, -, -, -, attributed⟩ :=
    emitted_of_compiled registered_beside rootNormal false grounded_page run calls
  have output : outputIn staging = "/tmp/dtsemit-STAGE/out" :=
    Eq.trans (join_of_arguments arguments (by decide)) (by decide)
  have overlay : staging.join "overlay" = "/tmp/dtsemit-STAGE/overlay" :=
    Eq.trans (join_of_arguments arguments (by decide)) (by decide)
  have files : compiledIn besideEngine staging = [Path.mk "/tmp/dtsemit-STAGE/overlay/__external__/b.ts",
      Path.mk "/tmp/dtsemit-STAGE/overlay/__external__/a.ts", Path.mk "/proj/page.ts"] := by
    unfold compiledIn
    rw [overlay]
    decide
  have base : baseIn besideEngine staging = "/" := by
    unfold baseIn
    rw [files]
    decide
  rw [output, base, files] at attributed
  obtain ⟨done, emitted⟩ := attributed besideWritten rfl (adds_beside bytes) (by decide)
    (apart_of_pairwise (by decide +kernel))
  obtain ⟨b, _, sameB, listed, -, staged, answerB⟩ := emitted "/proj/__external__/b.ts" _ rfl
  obtain rfl := Option.some.inj listed
  obtain ⟨a, _, sameA, listed', -, staged', answerA⟩ := emitted "/a.ts" _ rfl
  obtain rfl := Option.some.inj listed'
  obtain ⟨_, _, -, listed'', onDisk, -, answer⟩ := emitted "/proj/page.ts" _ rfl
  obtain rfl := Option.some.inj listed''
  obtain rfl := onDisk rfl
  refine ⟨_, e', w', b, a, by rw [done], calls, sameB, sameA, staged "1" rfl, staged' "2" rfl, ?_, ?_, ?_⟩
  · have name : declared? "/proj/__external__/b.ts" = some "b.d.ts" := by decide
    rw [answerB, declared?_of_same sameB, name]
    rfl
  · have name : declared? "/a.ts" = some "a.d.ts" := by decide
    rw [answerA, declared?_of_same sameA, name]
    rfl
  · rw [answer]
    exact congrArg Except.ok (by decide)

end DeclBundle.CompilerEngine
