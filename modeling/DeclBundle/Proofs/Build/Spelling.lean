import DeclBundle.Proofs.Build.Agreement
import DeclBundle.Proofs.Filter.Anchored
import DeclBundle.Proofs.Module.Relative

namespace DeclBundle

namespace Plugin

open ModuleId (Plain Typed spelled)
open Glob (Anywhere Matches)
open PathFilter (Passes)

variable {ε α : Type} {engine : Engine ε} {sources : ε → Sources α} {intake : Intake α}

def answer (engine : Engine ε) (code id : String) (s : Plugin ε × World) :
    Except Error (Option (Path × ModuleKind)) :=
  Books.unnumbered (notice engine ⟨code, id, fun w => w⟩ s).1.result

theorem answer_eq (registers : engine.Registers sources intake) (code id : String)
    (s : Plugin ε × World) : answer engine code id s =
      Books.unnumbered ((s.1.books sources).turn intake.full
        (ruling intake s.1.filter s.1.config.root s.2 code id)).1 := by
  obtain ⟨-, -, -, -, turned⟩ := turned_notice registers ⟨code, id, fun w => w⟩ s
  exact congrArg (fun t => Books.unnumbered t.1) turned

theorem unnumbered_turn_ne (full : Error) (b : Books α) (a : Admission) (held : Except Error α) :
    Books.unnumbered (b.turn full (held.map fun x => some (a, x))).1 ≠ .ok none := by
  cases held with
  | error e => exact nofun
  | ok x =>
    change Books.unnumbered (b.turn full (.ok (some (a, x)))).1 ≠ .ok none
    rcases Books.turn_cases full b a x with ⟨-, turned⟩ | ⟨-, turned⟩
    all_goals
      rw [turned]
      exact nofun

theorem turn_ruling_eq_iff (b : Books α) {filter : PathFilter} {root : Path} {w : World}
    {code id id' : String} (some : code ≠ "") (same : classify id' root = classify id root) :
    Books.unnumbered (b.turn intake.full (ruling intake filter root w code id)).1 =
        Books.unnumbered (b.turn intake.full (ruling intake filter root w code id')).1 ↔
      classify id root = none ∨ (filter.accepts id ↔ filter.accepts id') := by
  have admits (a : Admission) := unnumbered_turn_ne intake.full b a (intake.held w code a)
  have skips : Books.unnumbered (b.turn intake.full (.ok none)).1 = .ok none := rfl
  have text : code.isEmpty = false := by simpa using some
  unfold ruling
  simp only [text, Bool.false_eq_true, if_false, same]
  cases classify id root with
  | none => simp
  | some a =>
    by_cases taken : filter.accepts id <;> by_cases taken' : filter.accepts id'
    · simp [taken, taken']
    · simpa [taken, taken', skips] using admits a
    · simpa [taken, taken', skips] using (admits a).symm
    · simp [taken, taken']

section Join

variable (registers : engine.Registers sources intake) {config : Config} {w w' : World} {p : Plugin ε}
  (created : create engine config w = .ok p w') (rooted : config.root.isRooted)
  (plain : Plain config.root.text.toList) (untyped : ¬Typed config.root.text) {id : String}
  (relative : ¬(spelled id).isRooted) {code : String} (some : code ≠ "")

include registers created in
theorem kept_noticeAll (ns : List Notice) (start : World) :
    let s := (noticeAll engine ns (p, start)).2
    s.1.config.root = config.root ∧
      PathFilter.ofSpecs config.includes config.excludes config.root = .ok s.1.filter := by
  obtain ⟨made, filter, -⟩ := (ends_create_books registers config w).ok created
  obtain ⟨kept, kept', -⟩ := turns_noticeAll registers ns (p, start)
  dsimp only at kept kept' ⊢
  rw [kept, kept']
  exact ⟨by rw [made], filter⟩

include registers created rooted plain untyped relative some

theorem answer_join_iff_accepts (ns : List Notice) (start : World) :
    let s := (noticeAll engine ns (p, start)).2
    answer engine code id s = answer engine code (config.root.join ⟨id⟩).text s ↔
      classify id config.root = none ∨
        (s.1.filter.accepts id ↔ s.1.filter.accepts (config.root.join ⟨id⟩).text) := by
  intro s
  obtain ⟨root, -⟩ := kept_noticeAll registers created ns start
  obtain ⟨front, below⟩ := exists_below rooted plain relative
  rw [answer_eq registers, answer_eq registers, show s.1.config.root = config.root from root]
  exact turn_ruling_eq_iff _ some (below.classify_join untyped)

/-- Under the default filter both spellings of a module are treated alike, unless the root lies with the
installed packages. -/
theorem answer_join_of_default (inside : config.includes = .defaultInclude)
    (outside : config.excludes = .defaultExclude) (apart : "node_modules".toList ∉ config.root.pieces)
    (ns : List Notice) (start : World) :
    let s := (noticeAll engine ns (p, start)).2
    answer engine code id s = answer engine code (config.root.join ⟨id⟩).text s := by
  intro s
  obtain ⟨-, built⟩ := kept_noticeAll registers created ns start
  rw [inside, outside] at built
  obtain ⟨front, below⟩ := exists_below rooted plain relative
  refine (answer_join_iff_accepts registers created rooted plain untyped relative some ns start).mpr (.inr ?_)
  rw [PathFilter.accepts_default_iff built, PathFilter.accepts_default_iff built, below.mem_virtual_iff,
    below.toList_file, below.infix_installed_iff apart]
  have ending (known : String) (member : known ∈ Matchers.includedEndings) :
      known.toList <:+ front ++ '/' :: (ModuleId.file id).text.toList ↔
        known.toList <:+ (ModuleId.file id).text.toList := by
    apply Text.suffix_append_cons_iff
    simp only [Matchers.includedEndings, List.mem_cons, List.not_mem_nil, or_false] at member
    rcases member with rfl | rfl | rfl <;> decide
  refine and_congr_right fun _ => and_congr_right fun _ => exists_congr fun known => ?_
  exact and_congr_right fun member => (ending known member).symm

/-- A filter made of globs treats both spellings of a module alike just if what passes by the globs that are
matched anywhere is what passes by all of them. -/
theorem answer_join_iff {included excluded : List String}
    (inside : config.includes.patterns = included.map .glob)
    (outside : config.excludes.patterns = excluded.map .glob) (ns : List Notice) (start : World) :
    let s := (noticeAll engine ns (p, start)).2
    answer engine code id s = answer engine code (config.root.join ⟨id⟩).text s ↔
      classify id config.root = none ∨ '\x00' ∈ id.toList ∨
        ((Passes included excluded fun glob =>
            Anywhere glob ∧ Matches config.root glob (ModuleId.file id).text.toList) ↔
          Passes included excluded fun glob =>
            Matches config.root glob (ModuleId.file (config.root.join ⟨id⟩).text).text.toList) := by
  intro s
  obtain ⟨-, built⟩ := kept_noticeAll registers created ns start
  obtain ⟨front, below⟩ := exists_below rooted plain relative
  refine (answer_join_iff_accepts registers created rooted plain untyped relative some ns start).trans ?_
  rw [PathFilter.accepts_relative_iff inside outside built rooted (relative_file relative),
    PathFilter.accepts_iff_of_globs inside outside built, below.mem_virtual_iff]
  by_cases virtual : '\x00' ∈ id.toList <;> simp [virtual]

end Join

def slimScript : MemoryScript := { disk := some [("/proj/src/a.ts", "export const a = 1")] }

def globConfig (glob : String) : Config := { Build.bareConfig with includes := .one (.glob glob) }

def anywhereFilter : PathFilter :=
  ⟨⟨[.leading :: .star :: ".ts".toList.map .literal], []⟩, ⟨[], []⟩⟩

def anchoredFilter : PathFilter :=
  ⟨⟨["/proj/src/".toList.map .literal ++ .star :: ".ts".toList.map .literal], []⟩, ⟨[], []⟩⟩

theorem filter_anywhere : (globConfig "**/*.ts").filter = .ok anywhereFilter := by
  cbv

theorem filter_anchored : (globConfig "src/*.ts").filter = .ok anchoredFilter := by
  cbv

theorem create_slim {glob : String} {f : PathFilter} (built : (globConfig glob).filter = .ok f) :
    ∃ w, create (MemoryEngine.engine slimScript) (globConfig glob) Build.bareWorld =
      .ok ⟨globConfig glob, f, ⟨.empty, []⟩, .empty⟩ w := by
  simp only [create, built, Act.ofExcept, Bind.bind, EStateM.bind]
  exact ⟨_, rfl⟩

theorem matches_anywhere {path : List Char} (ending : ".ts".toList <:+ path) :
    Matches "/proj" "**/*.ts" path := by
  have read : Glob.parse? (anchorGlob "/proj" "**/*.ts".toList) =
      some (.leading :: .star :: ".ts".toList.map .literal) := by
    cbv
  exact ⟨_, read, (Glob.isMatch_ending (Text.isAscii_of_all rfl) (by decide) path).mpr ending⟩

theorem answer_join_iff_slim :
    ∃ p w, create (MemoryEngine.engine slimScript) (globConfig "**/*.ts") Build.bareWorld = .ok p w ∧
      answer (MemoryEngine.engine slimScript) "x" "src/a.ts" (p, Build.bareWorld) =
        answer (MemoryEngine.engine slimScript) "x" "/proj/src/a.ts" (p, Build.bareWorld) := by
  obtain ⟨w, created⟩ := create_slim filter_anywhere
  have plain : Plain (globConfig "**/*.ts").root.text.toList := by decide
  have untyped : ¬Typed (globConfig "**/*.ts").root.text := by decide
  have alike := answer_join_iff (MemoryEngine.registers slimScript) created (by decide) plain untyped
    (by decide : ¬(spelled "src/a.ts").isRooted) (by decide : "x" ≠ "")
    (rfl : _ = ["**/*.ts"].map FilterPattern.glob) (rfl : _ = List.map FilterPattern.glob []) []
    Build.bareWorld
  refine ⟨_, w, created, alike.mpr (.inr (.inr (iff_of_true ⟨nofun, .inr ?_⟩ ⟨nofun, .inr ?_⟩)))⟩
  · exact ⟨_, List.mem_cons_self, ⟨"/*.ts".toList, rfl⟩, matches_anywhere (by decide)⟩
  · exact ⟨_, List.mem_cons_self, matches_anywhere (by decide)⟩

/-- A file that is included is not seen as it is spelled from the root. -/
theorem skipped_by_spelling :
    ∃ p w, create (MemoryEngine.engine slimScript) (globConfig "src/*.ts") Build.bareWorld = .ok p w ∧
      (globConfig "src/*.ts").root.join "src/a.ts" = "/proj/src/a.ts" ∧
      answer (MemoryEngine.engine slimScript) "x" "src/a.ts" (p, Build.bareWorld) = .ok none ∧
      answer (MemoryEngine.engine slimScript) "x" "/proj/src/a.ts" (p, Build.bareWorld) =
        .ok (some ("/proj/src/a.ts", .source)) := by
  obtain ⟨w, created⟩ := create_slim filter_anchored
  have refused : anchoredFilter.accepts "src/a.ts" = false := by decide +kernel
  have taken : anchoredFilter.accepts "/proj/src/a.ts" = true := by decide +kernel
  have classified : classify "/proj/src/a.ts" (globConfig "src/*.ts").root =
      some (.standalone "/proj/src/a.ts") := by
    decide +kernel
  refine ⟨_, w, created, by decide, ?_, ?_⟩
  · rw [answer_eq (MemoryEngine.registers slimScript)]
    simp only [ruling, refused]
    rfl
  · rw [answer_eq (MemoryEngine.registers slimScript)]
    simp only [ruling, taken, classified]
    rfl

end Plugin

end DeclBundle
