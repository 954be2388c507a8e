import DeclBundle.Proofs.Build.Delivery
import DeclBundle.Proofs.Engine.Attribution
import DeclBundle.Proofs.Engine.Confinement
import DeclBundle.Proofs.Engine.Registration

namespace DeclBundle.Build

open CompilerEngine (engine)

def deskSource : String := "<script lang=\"ts\">export const size = 1;</script>"

def deskTree (bytes : ByteArray) : FileTree :=
  CompilerEngine.pageTree.extend [(["proj", "Badge.vue"], .file bytes false)]

def deskOutput (top : Place) (declarations : ByteArray) : List (Place × Entry) :=
  [(top ++ ["out"], .directory), (top ++ ["out", "tmp"], .directory),
    (top ++ ["out", "tmp", "dtsemit-STAGE"], .directory),
    (top ++ ["out", "tmp", "dtsemit-STAGE", "overlay"], .directory),
    (top ++ ["out", "tmp", "dtsemit-STAGE", "overlay", "Badge.vue.d.ts"], .file declarations false)]

def neatCompiler (_ : Nat) (i : Invocation) (t : FileTree) : Outcome :=
  let staging := match i.arguments with
    | [_, project, _, _] => (Path.mk project).parent?.getD ""
    | _ => ""
  match t.find i.directory staging with
  | .ok (top, .directory) =>
    ⟨t.extend (deskOutput top "export declare const size = 1;".toUTF8), .empty, .empty, 0⟩
  | _ => ⟨t, .empty, .empty, 0⟩

def deskWorld : World :=
  { CompilerEngine.pageWorld with
    tree := deskTree deskSource.toUTF8
    environment := [("DTSEMIT_TSC", "/bin/tsc")]
    compiler := neatCompiler }

theorem contained_desk : deskWorld.Contained := by
  intro count i t staging top tidy _ arguments stands
  have found : (Path.mk (staging.join "tsconfig.json").text).parent? = some staging :=
    Path.parent?_join_name tidy CompilerEngine.isName_tsconfig
  have outcome : deskWorld.compiler count i t =
      ⟨t.extend (deskOutput top "export declare const size = 1;".toUTF8), .empty, .empty, 0⟩ := by
    change neatCompiler count i t = _
    simp only [neatCompiler, arguments, found, Option.getD_some, stands]
  rw [outcome]
  apply FileTree.sameOutside_extend
  intro entry member
  simp only [deskOutput, List.mem_cons, List.not_mem_nil, or_false] at member
  rcases member with rfl | rfl | rfl | rfl | rfl <;> exact ⟨_, by simp, rfl⟩

theorem presented_desk : presented? "/proj/Badge.vue" deskSource =
    some ("export const size = 1;", "/proj/Badge.vue?vue&type=script&lang.ts") := by
  decide +kernel

theorem classify_desk : classify "/proj/Badge.vue?vue&type=script&lang.ts" "/proj" =
    some (.script "/proj/Badge.vue" .typeScript) := by
  decide

def deskEngine : CompilerEngine := CompilerEngine.withCommand bareConfig.projectOptions "/bin/tsc"

def deskStaged : CompilerEngine := deskEngine.enter "/proj/Badge.vue.ts" (.inMemory "export const size = 1;")

def deskHandle : Handle := ⟨⟨0⟩, "/proj/Badge.vue.ts", .scriptBlock⟩

def deskPlugin (e : CompilerEngine) (handles : List Handle) : Plugin CompilerEngine :=
  ⟨bareConfig, ⟨⟨[], []⟩, ⟨[], []⟩⟩, e, ⟨handles⟩⟩

theorem exists_create_desk : ∃ w, Plugin.create engine bareConfig deskWorld = .ok (deskPlugin deskEngine []) w ∧
    deskWorld.Logs w :=
  ⟨_, rfl, _, rfl⟩

theorem ends_transform_desk (w : World) :
    Act.Ends (Plugin.transform engine "export const size = 1;" "/proj/Badge.vue?vue&type=script&lang.ts")
      (deskPlugin deskEngine [], w)
      (fun h t => h = some deskHandle ∧ t.1 = deskPlugin deskStaged [deskHandle] ∧ w.Logs t.2)
      fun _ _ => False := by
  apply Plugin.ends_transform_cases
  · intro skipped
    exact absurd ⟨by decide, by decide, classify_desk⟩ (skipped (.script "/proj/Badge.vue" .typeScript))
  · intro a admits t logs
    obtain rfl := Option.some.inj (classify_desk.symm.trans admits.classified)
    have number : SourceId.ofIndex (deskEngine.sources.insert "/proj/Badge.vue.ts"
        (.inMemory "export const size = 1;")).2 = .ok ⟨0⟩ := rfl
    apply Plugin.ends_enroll_cases
    intro v more
    refine ((CompilerEngine.ends_register ..).and (CompilerEngine.registers.addText ..)).mono ?_ ?_
    · rintro source u ⟨⟨same, entered⟩, added, -⟩ x noted
      obtain rfl : ⟨0⟩ = source := Except.ok.inj (number.symm.trans same)
      exact ⟨rfl, congrArg (deskPlugin · [deskHandle]) entered, (logs.trans more).trans (added.trans noted)⟩
    · rintro error u ⟨⟨beyond, -, -⟩, -⟩
      exact absurd beyond (by decide)

theorem grounded_desk (bytes : ByteArray) : (deskTree bytes).Grounded := by
  apply CompilerEngine.grounded_page.extend
  intro entry member
  obtain rfl := List.mem_singleton.mp member
  rfl

theorem find_desk (bytes : ByteArray) : (deskTree bytes).find ["proj"] "/proj/Badge.vue" =
    .ok (["proj", "Badge.vue"], .file bytes false) :=
  (grounded_desk bytes).find_found (by decide) rfl (by simp)

theorem expandAll_desk {w : World} (logs : deskWorld.Logs w) :
    Inputs.expandAll w "/proj" ["Badge.vue"] = .ok [Path.mk "/proj/Badge.vue"] := by
  obtain ⟨log, rfl⟩ := logs
  have place : Path.resolve "/proj" "Badge.vue" = "/proj/Badge.vue" := by decide
  have found : Inputs.expand { deskWorld with log := log } "/proj/Badge.vue" = .ok [Path.mk "/proj/Badge.vue"] := by
    have there := find_desk deskSource.toUTF8
    unfold Inputs.expand
    change FileTree.find deskWorld.tree deskWorld.directory _ = _ at there
    rw [there]
  rw [Inputs.expandAll_cons, place, found]
  rfl

theorem ends_present_desk {w : World} (logs : deskWorld.Logs w) :
    Act.Ends (present engine ["Badge.vue"]) (deskPlugin deskEngine [], w)
      (fun _ t => t.1 = deskPlugin deskStaged [deskHandle] ∧ w.Logs t.2) fun _ _ => False := by
  have root : (deskPlugin deskEngine []).config.root = "/proj" := rfl
  have distinct : Inputs.distinct [Path.mk "/proj/Badge.vue"] = [Path.mk "/proj/Badge.vue"] := by decide
  simp only [present, Inputs.collect, Act.ends_bind, Act.ends_get, Act.ends_second, root, expandAll_desk logs,
    Act.ends_ofExcept, World.ends_note, Act.ends_pure]
  refine ⟨?_, fun _ failed => by cases failed⟩
  intro files listed
  obtain rfl := Except.ok.inj listed
  have readable (r : Record) : (w.addNote r).tree.readText (w.addNote r).directory "/proj/Badge.vue" =
      .ok deskSource := by
    obtain ⟨log, rfl⟩ := logs
    exact FileTree.readText_of_find (find_desk _)
  simp only [distinct, transformAll, transformFile, Act.ends_bind, Act.ends_second, World.ends_readText,
    Act.ends_pure, readable]
  refine ⟨?_, fun _ failed => by cases failed⟩
  intro text read
  obtain rfl := Except.ok.inj read
  simp only [presented_desk, Act.ends_bind, Act.ends_pure]
  refine (ends_transform_desk _).mono ?_ fun _ _ => id
  rintro h ⟨p', u⟩ ⟨-, rfl, more⟩
  exact ⟨rfl, ((World.logs_addNote ..).trans more).trans (World.logs_addNote ..)⟩

def deskOpened (bytes : ByteArray) : FileTree := (deskTree bytes).put ["tmp", "dtsemit-STAGE"] .directory

def deskOverlay (bytes : ByteArray) : FileTree :=
  (deskOpened bytes).put ["tmp", "dtsemit-STAGE", "overlay"] .directory

def deskFilled (bytes code : ByteArray) : FileTree :=
  (deskOverlay bytes).put ["tmp", "dtsemit-STAGE", "overlay", "Badge.vue.ts"] (.file code false)

def deskStage (bytes code config : ByteArray) : FileTree :=
  (deskFilled bytes code).put ["tmp", "dtsemit-STAGE", "tsconfig.json"] (.file config false)

variable (bytes code config : ByteArray)

theorem grounded_deskOpened : (deskOpened bytes).Grounded :=
  (grounded_desk bytes).put ["tmp"] "dtsemit-STAGE" rfl nofun _

theorem grounded_deskOverlay : (deskOverlay bytes).Grounded :=
  (grounded_deskOpened bytes).put ["tmp", "dtsemit-STAGE"] "overlay" rfl nofun _

theorem grounded_deskFilled : (deskFilled bytes code).Grounded :=
  (grounded_deskOverlay bytes).put ["tmp", "dtsemit-STAGE", "overlay"] "Badge.vue.ts" rfl nofun _

theorem grounded_deskStage : (deskStage bytes code config).Grounded :=
  (grounded_deskFilled bytes code).put ["tmp", "dtsemit-STAGE"] "tsconfig.json" rfl nofun _

theorem makeFresh_desk : (deskTree bytes).makeFresh ["proj"] "/tmp" "dtsemit-" =
    (Path.mk "/tmp/dtsemit-STAGE", .ok (deskOpened bytes)) :=
  (grounded_desk bytes).makeFresh_missing ["tmp"] "dtsemit-STAGE" (by decide) rfl rfl (by decide)

theorem makePath_desk : (deskOpened bytes).makePath ["proj"] "/tmp/dtsemit-STAGE/overlay" =
    (.ok (), deskOverlay bytes) := by
  have parent : (Path.mk "/tmp/dtsemit-STAGE/overlay").parent? = some (Path.mk "/tmp/dtsemit-STAGE") := by
    decide
  have made : (deskOpened bytes).makeDirectory ["proj"] "/tmp/dtsemit-STAGE/overlay" = .ok (deskOverlay bytes) :=
    (grounded_deskOpened bytes).makeDirectory_missing ["tmp", "dtsemit-STAGE"] "overlay" (by decide) rfl rfl
  exact FileTree.makeDirectories_of_new 26 parent made

theorem write_desk : (deskOverlay bytes).write ["proj"] "/tmp/dtsemit-STAGE/overlay/Badge.vue.ts" code =
    .ok (deskFilled bytes code) :=
  (grounded_deskOverlay bytes).write_missing ["tmp", "dtsemit-STAGE", "overlay"] "Badge.vue.ts" (by decide)
    rfl rfl code

theorem configure_desk : (deskFilled bytes code).write ["proj"] (Path.join "/tmp/dtsemit-STAGE" "tsconfig.json")
    config = .ok (deskStage bytes code config) :=
  (grounded_deskFilled bytes code).write_missing ["tmp", "dtsemit-STAGE"] "tsconfig.json" (by decide) rfl rfl
    config

open CompilerEngine (Arranged)

theorem arranged_desk {w : World} (logs : deskWorld.Logs w) : Arranged deskStaged w "/tmp/dtsemit-STAGE" ["proj"]
    (deskStage deskSource.toUTF8 "export const size = 1;".toUTF8) := by
  obtain ⟨log, rfl⟩ := logs
  have unpacked : (deskTree deskSource.toUTF8).isDirectory ["proj"] (Path.join "/proj" "node_modules") = false :=
    (grounded_desk _).isDirectory_missing ["proj"] "node_modules" (by decide) rfl rfl
  have temporary : deskWorld.temporaryDirectory.isRooted := by decide
  have place : ((Path.mk "/tmp/dtsemit-STAGE").join "overlay").join (Staging.relative "/proj" "/proj/Badge.vue.ts") =
      "/tmp/dtsemit-STAGE/overlay/Badge.vue.ts" := by decide
  have parent : (Path.mk "/tmp/dtsemit-STAGE/overlay/Badge.vue.ts").parent? =
      some (Path.mk "/tmp/dtsemit-STAGE/overlay") := by decide
  refine ⟨rfl, rfl, unpacked, temporary, ⟨deskOpened deskSource.toUTF8, deskFilled deskSource.toUTF8
    "export const size = 1;".toUTF8, makeFresh_desk _, ?_, configure_desk _ _⟩, fun config => ?_, by decide,
    fun config => ⟨["bin", "tsc"], .empty, ?_⟩⟩
  · refine CompilerEngine.ends_stageSources_of_write place parent (makePath_desk _) (write_desk _ _) ?_
    change Act.Ends (pure ()) _ _ _
    rw [Act.ends_pure]
  · exact (grounded_deskStage _ _ config).find_found (by decide) rfl (by simp)
  · exact (grounded_deskStage _ _ config).find_found (by decide) rfl (by simp)

theorem outcome_desk {w : World} (compiler : w.compiler = neatCompiler) (config : ByteArray) :
    w.outcomeOf (CompilerEngine.startIn deskStaged "/tmp/dtsemit-STAGE" ["proj"]
      (deskStage deskSource.toUTF8 "export const size = 1;".toUTF8 config)) =
    ⟨(deskStage deskSource.toUTF8 "export const size = 1;".toUTF8 config).extend
      (deskOutput ["tmp", "dtsemit-STAGE"] "export declare const size = 1;".toUTF8), .empty, .empty, 0⟩ := by
  have above : (Path.mk (Path.join "/tmp/dtsemit-STAGE" "tsconfig.json").text).parent? =
      some (Path.mk "/tmp/dtsemit-STAGE") := by decide
  have stands : (deskStage deskSource.toUTF8 "export const size = 1;".toUTF8 config).find ["proj"]
      "/tmp/dtsemit-STAGE" = .ok (["tmp", "dtsemit-STAGE"], .directory) :=
    (grounded_deskStage _ _ config).find_found (by decide) rfl (by simp)
  unfold World.outcomeOf
  rw [compiler]
  simp only [neatCompiler, CompilerEngine.startIn, above, Option.getD_some, stands]

theorem find_deskOutput (bytes code config declarations : ByteArray) :
    let t := (deskStage bytes code config).extend (deskOutput ["tmp", "dtsemit-STAGE"] declarations)
    t.find ["proj"] "/tmp/dtsemit-STAGE/out/tmp/dtsemit-STAGE/overlay/Badge.vue.d.ts" =
        .ok (["tmp", "dtsemit-STAGE", "out", "tmp", "dtsemit-STAGE", "overlay", "Badge.vue.d.ts"],
          .file declarations false) ∧
      t.find ["proj"] "/tmp/dtsemit-STAGE/out/tmp/dtsemit-STAGE/overlay/Badge.vue.d.ts.map" =
        .error .notFound := by
  have grounded : ((deskStage bytes code config).extend
      (deskOutput ["tmp", "dtsemit-STAGE"] declarations)).Grounded := by
    refine (grounded_deskStage bytes code config).extend ?_
    simp only [deskOutput, List.forall_mem_cons]
    exact ⟨rfl, rfl, rfl, rfl, rfl, nofun⟩
  exact ⟨grounded.find_found (by decide) rfl (by simp),
    grounded.find_missing ["tmp", "dtsemit-STAGE", "out", "tmp", "dtsemit-STAGE", "overlay"] "Badge.vue.d.ts.map"
      (by decide) rfl rfl⟩

theorem parse_silence (locate : String → Path) :
    Diagnostic.parse locate (CompilerEngine.printed .empty) = ([], []) := by
  have lines : Text.lines [] = [] := by decide
  unfold Diagnostic.parse
  rw [CompilerEngine.printed_empty, lines]
  rfl

theorem ends_settle_desk {w : World} {config : ByteArray} (tree : w.tree =
    (deskStage deskSource.toUTF8 "export const size = 1;".toUTF8 config).extend
      (deskOutput ["tmp", "dtsemit-STAGE"] "export declare const size = 1;".toUTF8))
    (directory : w.directory = ["proj"]) {o : Outcome} (silent : o.stdout = .empty) (well : o.status = 0) :
    Act.Ends (CompilerEngine.settle deskStaged "/tmp/dtsemit-STAGE" o) w
      (fun c _ => c.diagnostics = [] ∧
        c.outputs = [[⟨"/proj/Badge.vue.d.ts", "export declare const size = 1;"⟩]])
      fun _ _ => False := by
  have listed : deskStaged.sources.paths.zip (CompilerEngine.compiledIn deskStaged "/tmp/dtsemit-STAGE") =
      [(Path.mk "/proj/Badge.vue.ts", Path.mk "/tmp/dtsemit-STAGE/overlay/Badge.vue.ts")] := by decide
  have names : Staging.declaredNames "/proj/Badge.vue.ts" = ["Badge.vue.d.ts", "Badge.vue.d.ts.map"] := by
    decide
  have logical : Path.withFileName "/proj/Badge.vue.ts" "Badge.vue.d.ts" = "/proj/Badge.vue.d.ts" := by decide
  have place : (CompilerEngine.outputBeside deskStaged "/tmp/dtsemit-STAGE"
      "/tmp/dtsemit-STAGE/overlay/Badge.vue.ts").withFileName "Badge.vue.d.ts" =
        "/tmp/dtsemit-STAGE/out/tmp/dtsemit-STAGE/overlay/Badge.vue.d.ts" := by decide
  have place' : (CompilerEngine.outputBeside deskStaged "/tmp/dtsemit-STAGE"
      "/tmp/dtsemit-STAGE/overlay/Badge.vue.ts").withFileName "Badge.vue.d.ts.map" =
        "/tmp/dtsemit-STAGE/out/tmp/dtsemit-STAGE/overlay/Badge.vue.d.ts.map" := by decide
  obtain ⟨found, missing⟩ := find_deskOutput deskSource.toUTF8 "export const size = 1;".toUTF8 config
    "export declare const size = 1;".toUTF8
  have text : w.textAt? "/tmp/dtsemit-STAGE/out/tmp/dtsemit-STAGE/overlay/Badge.vue.d.ts" =
      some "export declare const size = 1;" := by
    unfold World.textAt?
    rw [tree, directory, FileTree.readText_of_find found]
    rfl
  have none : w.textAt? "/tmp/dtsemit-STAGE/out/tmp/dtsemit-STAGE/overlay/Badge.vue.d.ts.map" = none ∧
      w.isFile "/tmp/dtsemit-STAGE/out/tmp/dtsemit-STAGE/overlay/Badge.vue.d.ts.map" = false := by
    unfold World.textAt? World.isFile FileTree.readText FileTree.isFile
    rw [tree, directory, missing]
    exact ⟨rfl, rfl⟩
  refine (CompilerEngine.ends_settle ..).mono ?_ ?_
  · rintro c t ⟨-, -, -, rfl⟩
    refine ⟨?_, ?_⟩
    · unfold CompilerEngine.diagnosed
      rw [silent, parse_silence]
    · simp only [listed, names, CompilerEngine.filesAt, List.map_cons, List.map_nil, List.filterMap_cons,
        List.filterMap_nil, place, place', text, none.1, logical, Option.map_some, Option.map_none]
  · rintro error t ⟨-, ⟨explained, -⟩ | ⟨-, source, member, name, named, file, unread⟩⟩
    · exact explained.1 well
    · rw [listed] at member
      obtain rfl := List.mem_singleton.mp member
      rw [names] at named
      rcases List.mem_pair.mp named with rfl | rfl
      · rw [place, text] at unread
        cases unread
      · rw [place', none.2] at file
        cases file

theorem ends_ensureCompiled_desk {w : World} (logs : deskWorld.Logs w) :
    Act.Ends CompilerEngine.ensureCompiled (deskStaged, w)
      (fun c t => t.1.compilation = some c ∧ c.diagnostics = [] ∧
        c.outputs = [[⟨"/proj/Badge.vue.d.ts", "export declare const size = 1;"⟩]])
      fun _ _ => False := by
  apply (arranged_desk logs).ends_ensureCompiled
  obtain ⟨log, rfl⟩ := logs
  intro config v _ tree directory
  rw [outcome_desk rfl] at tree ⊢
  refine (ends_settle_desk tree directory rfl rfl).mono ?_ fun _ _ never _ => never
  exact fun c _ outputs _ => ⟨rfl, outputs⟩

theorem ends_prepare_desk {w : World} (logs : deskWorld.Logs w) :
    Act.Ends (prepare engine ["Badge.vue"] { directory := some "dist" }) (deskPlugin deskEngine [], w)
      (fun plan t => plan = (Path.mk "/proj/dist", 0) ∧ deskWorld.Stays t.2 ∧ ∃ e, t.1 = deskPlugin e [deskHandle] ∧
        engine.emitted e ⟨0⟩ = .ok [⟨"/proj/Badge.vue.d.ts", "export declare const size = 1;"⟩]) fun _ _ => False := by
  have place : Path.resolve "/proj" "dist" = "/proj/dist" := by decide
  have directory : ({ directory := some "dist" } : Output).declarationDirectory "/proj" = .ok "/proj/dist" :=
    congrArg Except.ok place
  rw [ends_prepare_iff]
  refine (ends_present_desk logs).mono ?_ fun _ _ => id
  rintro _ ⟨p, v⟩ ⟨rfl, more⟩
  refine Emission.ends_prepare (fun _ failed => by cases directory.symm.trans failed) fun found same v' noted => ?_
  obtain rfl := Except.ok.inj (directory.symm.trans same)
  have logs' := (logs.trans more).trans noted
  have stays := World.stays_of_logs logs'
  have normal : ∀ p ∈ deskStaged.sources.paths, p.IsNormal := by
    intro p member
    obtain rfl := List.mem_singleton.mp member
    exact ⟨by decide, by decide⟩
  simp only [engine, Act.ends_bind, Act.ends_pure]
  refine ((ends_ensureCompiled_desk logs').and (CompilerEngine.stays_ensureCompiled (by decide) normal
    (stays.grounded (grounded_desk _)) (stays.contained contained_desk))).mono ?_ fun _ _ never => never.1
  rintro c ⟨e, u⟩ ⟨⟨known, none, outputs⟩, more⟩ u' noted'
  refine (CompilerEngine.ends_emit_of_compiled known u').mono ?_ fun _ _ => id
  rintro _ ⟨e', _⟩ ⟨emitted, rfl⟩
  refine ⟨by rw [none]; rfl, (stays.trans more).trans (World.stays_of_logs noted'), e', rfl, ?_⟩
  have kept : e'.compilation.filter (·.emitted) = some { c with emitted := true } := by
    rw [emitted]
    rfl
  unfold CompilerEngine.emitted?
  rw [kept]
  simp [outputs]

theorem ends_run_desk {κ : Type} (sink : Sink κ) (k : κ) {w : World} (logs : deskWorld.Logs w) :
    Act.Ends (run engine sink ["Badge.vue"] { directory := some "dist" }) (deskPlugin deskEngine [], k, w)
      (fun summary t => summary = ⟨1, 0, ["/proj/dist/Badge.vue.d.ts"]⟩ ∧ ∃ u v, deskWorld.Stays u ∧
        sink.write "/proj/dist/Badge.vue.d.ts" "export declare const size = 1;" (k, u) = .ok () v ∧
        t.2.1 = v.1 ∧ v.2.Logs t.2.2)
      fun error t => ∃ u, deskWorld.Stays u ∧
        sink.write "/proj/dist/Badge.vue.d.ts" "export declare const size = 1;" (k, u) = .error error t.2 := by
  rw [run_eq, Act.ends_bind, Act.ends_focus]
  refine (ends_prepare_desk logs).mono ?_ fun _ _ => False.elim
  rintro ⟨_, _⟩ ⟨_, u⟩ ⟨plan, stays, e, rfl, emitted⟩
  cases plan
  have known : ∀ h ∈ (deskPlugin e [deskHandle]).registry.handles, ∃ files, engine.emitted e h.id = .ok files := by
    intro h member
    obtain rfl := List.mem_singleton.mp member
    exact ⟨_, emitted⟩
  have files : outgoing engine (deskPlugin e [deskHandle]) =
      [⟨"/proj/Badge.vue.d.ts", "export declare const size = 1;"⟩] := by
    change ([deskHandle].flatMap fun h => (engine.emitted e h.id).toOption.getD []) = _
    rw [List.flatMap_singleton]
    change (engine.emitted e ⟨0⟩).toOption.getD [] = _
    rw [emitted]
    rfl
  have here : rerooting (deskPlugin e [deskHandle]) = ⟨"/proj", false⟩ := rfl
  have target : Rerooting.target ⟨"/proj", false⟩ "/proj/dist" "/proj/Badge.vue.d.ts" =
      "/proj/dist/Badge.vue.d.ts" := by decide
  have text : Rerooting.text ⟨"/proj", false⟩ "export declare const size = 1;" = "export declare const size = 1;" := rfl
  have ends := ends_finish engine sink known "/proj/dist" 0 k u
  rw [here, files] at ends
  refine ends.mono ?_ ?_
  · rintro summary ⟨_, t⟩ ⟨-, rfl, delivers⟩
    simp only [Emission.attempts, List.map_cons, List.map_nil, target, text] at delivers
    obtain ⟨v, more, ⟨-, x, ran, kept, logs⟩ | ⟨_, failed, -⟩⟩ := delivers.of_single
    · refine ⟨?_, v, x, stays.trans (World.stays_of_logs more), ran, kept, logs⟩
      simp only [Emission.targets, List.map_cons, List.map_nil, target]
      rfl
    · cases failed
  · rintro error ⟨_, t⟩ ⟨-, before, f, after, whole, delivers⟩
    cases before with
    | nil =>
      obtain ⟨rfl, -⟩ := List.cons.inj whole
      simp only [Emission.attempts, List.map_nil, List.nil_append, target, text] at delivers
      obtain ⟨v, more, ⟨failed, -⟩ | ⟨_, failed, ran⟩⟩ := delivers.of_single
      · cases failed
      · cases failed
        exact ⟨v, stays.trans (World.stays_of_logs more), ran⟩
    | cons first before => simp at whole

end DeclBundle.Build
