import DeclBundle.Proofs.Diagnostic.Reading
import DeclBundle.Proofs.Engine.Tsconfig

namespace DeclBundle

def Outcome.Diagnosed (o : Outcome) : Prop :=
  ∃ line ∈ Text.lines (CompilerEngine.printed o.stdout), Diagnostic.Announces line

namespace CompilerEngine

theorem diagnosed_eq_nil_iff (e : CompilerEngine) (staging : Path) (o : Outcome) :
    (diagnosed e staging o).1 = [] ↔ ¬o.Diagnosed := by
  rw [diagnosed, Diagnostic.parse_eq_nil_iff]
  simp [Outcome.Diagnosed]

def Told : Except Error Compilation → Prop
  | .error _ => True
  | .ok c => c.diagnostics ≠ []

structure Judged (e : CompilerEngine) (staging : Path) (w : World) (call : Call)
    (result : Except Error Compilation) : Prop where
  told : Told result ↔ (w.outcomeOf call).Explained ∨ (w.outcomeOf call).Diagnosed ∨
    Garbled e staging (w.afterwards call)
  explained : (w.outcomeOf call).Explained → result = .error (e.exitError (w.outcomeOf call))

def Concludes (e : CompilerEngine) (w t : World) (result : Except Error Compilation) : Prop :=
  ∃ staging before call, t.calls = w.calls ++ [call] ∧ Starts e w.directory staging before call ∧
    Judged e staging w call result

theorem Verdict.judged {e : CompilerEngine} {staging : Path} {w : World} {call : Call}
    {result : Except Error Compilation} (verdict : Verdict e staging w call result) :
    Judged e staging w call result := by
  cases verdict with
  | compiled unexplained readable diagnostics =>
    refine ⟨?_, fun explained => absurd explained unexplained⟩
    simp [Told, diagnostics, diagnosed_eq_nil_iff, unexplained, readable]
  | explained explained => exact ⟨iff_of_true trivial (.inl explained), fun _ => rfl⟩
  | garbled unexplained garbled =>
    exact ⟨iff_of_true trivial (.inr (.inr garbled)), fun explained => absurd explained unexplained⟩

theorem concludes_compile (e : CompilerEngine) (w : World) :
    Act.Ends (compile e) w (fun c t => Concludes e w t (.ok c))
      fun error t => t.calls = w.calls ∨ Concludes e w t (.error error) := by
  have judged {t : World} {result : Except Error Compilation} (closes : Closes e w t result) :
      Concludes e w t result := by
    obtain ⟨staging, before, call, -, starts, calls, verdict⟩ := closes
    exact ⟨staging, before, call, calls, starts, verdict.judged⟩
  exact (closes_compile e w).mono (fun _ _ => judged) fun _ _ ended => ended.imp_right judged

def Event.Surfaces (f : Event) : Prop :=
  f.result.isOk = false ∨ ∃ c, f.after.1.compilation = some c ∧ c.diagnostics ≠ []

structure Event.Shows (f : Event) (result : Except Error Compilation) : Prop where
  surfaces : f.Surfaces ↔ Told result
  failed : ∀ error, result = .error error → f.result = .error error

theorem Event.Answers.shows {f : Event} {result : Except Error Compilation} (answers : f.Answers result) :
    f.Shows result where
  failed := answers.failed
  surfaces := by
    cases result with
    | error error =>
      have failed := answers.failed error rfl
      exact iff_of_true (.inl (by rw [failed]; rfl)) trivial
    | ok c =>
      obtain ⟨ok, c', compiled, same⟩ := answers.done c rfl
      simp [Event.Surfaces, Told, ok, compiled, same]

theorem shows_event (r : Request) (e : CompilerEngine) (w : World) :
    (r.event (e, w)).after.2.calls = w.calls ∨
      ∃ result, Concludes e w (r.event (e, w)).after.2 result ∧ (r.event (e, w)).Shows result := by
  rcases answers_event r (Q := fun result t => t.calls = w.calls ∨ Concludes e w t result)
    ((concludes_compile e w).mono (fun _ _ => .inr) fun _ _ ended => ended) with
      idle | ⟨result, idle | concludes, answers⟩
  · exact .inl idle
  · exact .inl idle
  · exact .inr ⟨result, concludes, answers.shows⟩

/-- A run of the compiler is not taken for a clean build exactly when it fails with nothing but an explanation,
which is the error then, lists a diagnostic, or leaves declarations behind that are no text. -/
theorem surfaces_iff (r : Request) (e : CompilerEngine) (w : World) {call : Call}
    (ran : (r.event (e, w)).after.2.calls = w.calls ++ [call]) :
    ((w.outcomeOf call).Explained →
      (r.event (e, w)).result = .error (e.exitError (w.outcomeOf call))) ∧
    ∃ staging before, Starts e w.directory staging before call ∧
      ((r.event (e, w)).Surfaces ↔ (w.outcomeOf call).Explained ∨ (w.outcomeOf call).Diagnosed ∨
        Garbled e staging (w.afterwards call)) := by
  rcases shows_event r e w with idle | ⟨result, ⟨staging, before, call', calls, starts, judged⟩, shown⟩
  · simp [idle] at ran
  · obtain rfl : call' = call := by simpa [calls] using ran
    refine ⟨fun explained => shown.failed _ (judged.explained explained), staging, before, starts, ?_⟩
    exact shown.surfaces.trans judged.told

def menuEngine : CompilerEngine :=
  ⟨.ofOverrides "/proj" (.mergeAll []), "/bin/tsc", ⟨[("/proj/menu.js", .onDisk)]⟩, none⟩

def stopping (stdout : String) (status : Nat) : World :=
  { menuWorld with compiler := fun _ _ t => ⟨t, stdout.toUTF8, .empty, status⟩ }

theorem arranged_stopping (stdout : String) (status : Nat) :
    Arranged menuEngine (stopping stdout status) "/tmp/dtsemit-STAGE" ["proj"] menuStage :=
  arranged_menu _ rfl rfl rfl rfl fun source member => by rw [List.mem_singleton.mp member]

theorem stdout_stopping (stdout : String) (status : Nat) (call : Call) :
    ((stopping stdout status).outcomeOf call).stdout = stdout.toUTF8 := rfl

def unknownOption : String := "error TS5023: Unknown compiler option 'fast'.\n"

theorem surfaces_of_unknownOption :
    ∃ call, (Request.emission.event (menuEngine, stopping unknownOption 1)).after.2.calls = [call] ∧
      ((stopping unknownOption 1).outcomeOf call).status = 1 ∧
        (Request.emission.event (menuEngine, stopping unknownOption 1)).Surfaces := by
  obtain ⟨bytes, ran⟩ := (arranged_stopping unknownOption 1).calls_event (r := .emission) rfl
  obtain ⟨-, _, _, -, surfaces⟩ := surfaces_iff .emission menuEngine (stopping unknownOption 1) ran
  refine ⟨_, ran, rfl, surfaces.mpr (.inr (.inl ?_))⟩
  have said : printed unknownOption.toUTF8 = unknownOption.toList := by cbv
  have number : Diagnostic.IsNumber "5023".toList := ⟨by decide, by simp [Unicode.isDigit]⟩
  refine ⟨"error TS5023: Unknown compiler option 'fast'.".toList, ?_,
    .bare .error number "Unknown compiler option 'fast'.".toList⟩
  rw [stdout_stopping, said]
  decide +kernel

theorem compiled_menu : menuEngine.sources.paths.zip (compiledIn menuEngine "/tmp/dtsemit-STAGE") =
    [(Path.mk "/proj/menu.js", Path.mk "/proj/menu.js")] := rfl

theorem find_output_menu (bytes : ByteArray) {name : String}
    (declared : name ∈ Staging.declaredNames "/proj/menu.js") :
    (menuStage bytes).find ["proj"]
      ((outputBeside menuEngine "/tmp/dtsemit-STAGE" "/proj/menu.js").withFileName name) =
        .error .notFound := by
  have beside : outputBeside menuEngine "/tmp/dtsemit-STAGE" "/proj/menu.js" =
    "/tmp/dtsemit-STAGE/out/menu.js" := by decide +kernel
  have names : Staging.declaredNames "/proj/menu.js" = ["menu.d.ts", "menu.d.ts.map"] := by decide +kernel
  have plain : Path.withFileName "/tmp/dtsemit-STAGE/out/menu.js" "menu.d.ts" =
    "/tmp/dtsemit-STAGE/out/menu.d.ts" := by decide +kernel
  have map : Path.withFileName "/tmp/dtsemit-STAGE/out/menu.js" "menu.d.ts.map" =
    "/tmp/dtsemit-STAGE/out/menu.d.ts.map" := by decide +kernel
  have grounded := grounded_menuStage bytes
  rw [names] at declared
  rw [beside]
  rcases List.mem_pair.mp declared with rfl | rfl
  · rw [plain]
    exact (grounded.find_stuck ["tmp", "dtsemit-STAGE"] "out" "menu.d.ts" [] (by decide) rfl rfl true).2
  · rw [map]
    exact (grounded.find_stuck ["tmp", "dtsemit-STAGE"] "out" "menu.d.ts.map" [] (by decide) rfl rfl true).2

theorem mute_stopping (status : Nat) (call : Call) :
    ¬((stopping "" status).outcomeOf call).Explained ∧ ¬((stopping "" status).outcomeOf call).Diagnosed := by
  refine ⟨not_explained_of_silent rfl, ?_⟩
  simp [Outcome.Diagnosed, stdout_stopping, printed_empty, Text.lines]

theorem event_mute (status : Nat) :
    (Request.diagnostics.event (menuEngine, stopping "" status)).result = .ok (.diagnosed []) ∧
      (Request.diagnostics.event (menuEngine, stopping "" status)).after.1 =
        { menuEngine with compilation := some ⟨[], [[]], false⟩ } := by
  apply event_of_ends (P := fun f => f.result = .ok (.diagnosed []) ∧
    f.after.1 = { menuEngine with compilation := some ⟨[], [[]], false⟩ })
  simp only [Request.ask, engine, Act.ends_map, Act.ends_bind, Act.ends_pure]
  apply (arranged_stopping "" status).ends_ensureCompiled
  intro bytes v _ after directory
  obtain ⟨unexplained, undiagnosed⟩ :=
    mute_stopping status (startIn menuEngine "/tmp/dtsemit-STAGE" ["proj"] (menuStage bytes))
  have here : v.directory = ["proj"] := directory
  have tree : v.tree = menuStage bytes := after
  refine (ends_settle ..).mono ?_ ?_
  · rintro c _ ⟨⟨log, rfl⟩, -, -, rfl⟩ _
    have none := (diagnosed_eq_nil_iff menuEngine "/tmp/dtsemit-STAGE" _).mpr undiagnosed
    have unwritten : filesAt v "/proj/menu.js"
        (outputBeside menuEngine "/tmp/dtsemit-STAGE" "/proj/menu.js")
          (Staging.declaredNames "/proj/menu.js") = [] := by
      apply List.filterMap_eq_nil_iff.mpr
      intro name declared
      unfold World.textAt? FileTree.readText
      rw [here, tree, find_output_menu bytes declared]
      rfl
    rw [none, compiled_menu, List.map_singleton]
    dsimp only
    rw [unwritten]
    exact ⟨rfl, rfl⟩
  · rintro error _ ⟨-, ⟨explained, -⟩ | ⟨-, source, member, name, declared, file, -⟩⟩
    · exact absurd explained unexplained
    · rw [compiled_menu, List.mem_singleton] at member
      subst member
      unfold World.isFile FileTree.isFile at file
      rw [here, tree, find_output_menu bytes declared] at file
      cases file

/-- A compiler that fails without a word is taken for one that has compiled, and the menu has no
declarations. -/
theorem unnoticed_of_mute :
    ∃ g f h k call, session (withCommand (.ofOverrides "/proj" (.mergeAll [])) "/bin/tsc")
        [(.file "/proj/menu.js", stopping "" 1), (.diagnostics, stopping "" 1),
          (.emission, stopping "" 1), (.files ⟨0⟩, stopping "" 1)] = [g, f, h, k] ∧
      f.after.2.calls = [call] ∧ ((stopping "" 1).outcomeOf call).status = 1 ∧
      f.result = .ok (.diagnosed []) ∧ h.result = .ok .emitted ∧ k.result = .ok (.files []) := by
  let w := stopping "" 1
  let g := (Request.file "/proj/menu.js").event
    (withCommand (.ofOverrides "/proj" (.mergeAll [])) "/bin/tsc", w)
  let f := Request.diagnostics.event (g.after.1, w)
  let h := Request.emission.event (f.after.1, w)
  let k := (Request.files ⟨0⟩).event (h.after.1, w)
  have found : menuTree.find ["proj"] "/proj/menu.js" = .ok (["proj", "menu.js"], .file .empty false) :=
    grounded_menu.find_found (by decide) rfl (by simp)
  have registered : g.after.1 = menuEngine := after_file found
  have asked : f = Request.diagnostics.event (menuEngine, w) :=
    congrArg (Request.diagnostics.event ⟨·, w⟩) registered
  obtain ⟨result, compiled⟩ := event_mute 1
  obtain ⟨bytes, ran⟩ := (arranged_stopping "" 1).calls_event (r := .diagnostics) rfl
  have emitted :
      h = Request.emission.event ({ menuEngine with compilation := some ⟨[], [[]], false⟩ }, w) := by
    rw [← compiled, ← asked]
  have listed : k.result = .ok (.files []) := by
    change ((Request.files ⟨0⟩).event (h.after.1, w)).result = _
    rw [emitted]
    rfl
  exact ⟨g, f, h, k, _, rfl, asked ▸ ran, rfl, asked ▸ result, emitted ▸ rfl, listed⟩

end CompilerEngine

end DeclBundle
