import DeclBundle.Engine.Memory
import DeclBundle.Proofs.Build.Attempts
import DeclBundle.Proofs.World

namespace DeclBundle

structure Notice where
  code : String
  id : String
  meanwhile : World → World := fun w => w

structure Answer where
  world : World
  result : Except Error (Option Handle)

namespace Plugin

variable {ε : Type} (engine : Engine ε)

def notice (n : Notice) (s : Plugin ε × World) : Answer × Plugin ε × World :=
  let w := n.meanwhile s.2
  let t := (transform engine n.code n.id).outcome (s.1, w)
  (⟨w, t.1⟩, t.2)

def noticeAll : List Notice → Plugin ε × World → List Answer × Plugin ε × World
  | [], s => ([], s)
  | n :: rest, s =>
    let t := notice engine n s
    let u := noticeAll rest t.2
    (t.1 :: u.1, u.2)

structure Bundle (κ : Type) where
  answers : List Answer
  registry : Registry
  result : Except Error Summary
  sink : κ

def bundle {κ : Type} (sink : Sink κ) (output : Output) (ns : List Notice) (p : Plugin ε) (k : κ)
    (w : World) : Bundle κ :=
  let s := noticeAll engine ns (p, w)
  let t := (generate engine sink output).outcome (s.2.1, k, s.2.2)
  ⟨s.1, s.2.1.registry, t.1, t.2.2.1⟩

end Plugin

/-- Notices that tell a build below `root` the same: they may differ in the text of a plain source. -/
structure Notice.Alike (root : Path) (m n : Notice) : Prop where
  id : m.id = n.id
  meanwhile : m.meanwhile = n.meanwhile
  empty : m.code.isEmpty = n.code.isEmpty
  script : ∀ component lang, classify m.id root = some (.script component lang) → m.code = n.code

namespace Plugin

variable {ε : Type} {engine : Engine ε}

theorem ends_transform_config (code id : String) (p : Plugin ε) (w : World) :
    Act.Ends (transform engine code id) (p, w) (fun _ t => t.1.config = p.config)
      fun _ t => t.1.config = p.config := by
  apply ends_transform_cases
  · exact fun _ _ _ => rfl
  · intro a _ t _
    exact ends_enroll_cases fun _ _ => .of_runs (fun _ _ _ _ _ => rfl) fun _ _ _ => rfl

theorem config_notice (n : Notice) (s : Plugin ε × World) :
    (notice engine n s).2.1.config = s.1.config :=
  (ends_transform_config n.code n.id s.1 (n.meanwhile s.2)).outcome

theorem enroll_eq_of_plain {code code' id : String} {a : Admission}
    (plain : ∀ component lang, a = .script component lang → code = code') :
    enroll engine code id a = enroll engine code' id a := by
  cases a with
  | script component lang => rw [plain component lang rfl]
  | standalone p => rfl

theorem transform_eq_of_alike {m n : Notice} {p : Plugin ε} (alike : m.Alike p.config.root n)
    (w : World) : transform engine m.code m.id (p, w) = transform engine n.code n.id (p, w) := by
  obtain ⟨same, -, empty, script⟩ := alike
  unfold transform
  rw [← same, ← empty]
  split
  · rfl
  · simp only [Bind.bind, EStateM.bind, get, getThe, MonadStateOf.get, EStateM.get]
    cases admitted : classify m.id p.config.root with
    | none => rfl
    | some a =>
      have plain : enroll engine m.code m.id a = enroll engine n.code m.id a := by
        apply enroll_eq_of_plain
        rintro component lang rfl
        exact script component lang admitted
      simp only [plain]

theorem notice_eq_of_alike {m n : Notice} {s : Plugin ε × World} (alike : m.Alike s.1.config.root n) :
    notice engine m s = notice engine n s := by
  have same : (transform engine m.code m.id).outcome (s.1, n.meanwhile s.2) =
      (transform engine n.code n.id).outcome (s.1, n.meanwhile s.2) := by
    rw [Act.outcome, Act.outcome, transform_eq_of_alike alike]
  simp only [notice, alike.meanwhile, same]

theorem noticeAll_eq_of_alike {ms ns : List Notice} {s : Plugin ε × World}
    (alike : List.Forall₂ (Notice.Alike s.1.config.root) ms ns) :
    noticeAll engine ms s = noticeAll engine ns s := by
  induction ms generalizing ns s with
  | nil => cases alike with
    | nil => rfl
  | cons m ms ih => cases alike with
    | @cons _ n _ ns first rest =>
      have later : noticeAll engine ms (notice engine n s).2 = noticeAll engine ns (notice engine n s).2 :=
        ih (by rwa [config_notice])
      rw [noticeAll, noticeAll, notice_eq_of_alike first]
      simp only [later]

/-- Whatever the bundler has made of plain sources, a build answers the same, admits the same, writes the
same in the same order and comes to the same end. -/
theorem bundle_eq_of_alike {κ : Type} (sink : Sink κ) (output : Output) {ms ns : List Notice}
    (p : Plugin ε) (alike : List.Forall₂ (Notice.Alike p.config.root) ms ns) (k : κ) (w : World) :
    bundle engine sink.traced output ms p ([], k) w =
      bundle engine sink.traced output ns p ([], k) w := by
  have same : noticeAll engine ms (p, w) = noticeAll engine ns (p, w) := noticeAll_eq_of_alike alike
  simp only [bundle, same]

def menuScript : MemoryScript := { disk := some [("/proj/menu.ts", "export const menu = 1")] }

def menuStart : Plugin MemoryEngine := ⟨Build.bareConfig, ⟨⟨[], []⟩, ⟨[], []⟩⟩, ⟨.empty, []⟩, .empty⟩

def menuNotices (plain : String) : List Notice :=
  [⟨"export default 1", "/proj/Menu.vue?vue&type=script&lang.ts", fun w => w⟩,
    ⟨plain, "/proj/menu.ts", fun w => w⟩]

theorem alike_menu {plain plain' : String} (same : plain.isEmpty = plain'.isEmpty) :
    List.Forall₂ (Notice.Alike menuStart.config.root) (menuNotices plain) (menuNotices plain') := by
  refine .cons ⟨rfl, rfl, rfl, fun _ _ _ => rfl⟩ (.cons ⟨rfl, rfl, same, ?_⟩ .nil)
  intro component lang script
  have source : classify "/proj/menu.ts" menuStart.config.root = some (.standalone "/proj/menu.ts") := by
    decide
  rw [source] at script
  cases script

def menuBundle (plain : String) : Bundle (List Attempt × MemorySink) :=
  bundle (MemoryEngine.engine menuScript) Sink.memory.traced { directory := some "dist" }
    (menuNotices plain) menuStart ([], {}) Build.bareWorld

theorem bundle_eq_of_alike_menu :
    List.Forall₂ (Notice.Alike menuStart.config.root) (menuNotices "let menu = 1")
        (menuNotices "export const other = 2") ∧
      menuNotices "let menu = 1" ≠ menuNotices "export const other = 2" ∧
      menuBundle "let menu = 1" = menuBundle "export const other = 2" ∧
      (menuBundle "export const other = 2").sink.1.map (fun a => (a.path, a.text)) =
        [(⟨"/proj/dist/Menu.vue.d.ts"⟩, "export default 1\n"),
          (⟨"/proj/dist/menu.d.ts"⟩, "export const menu = 1\n")] := by
  have alike := @alike_menu "let menu = 1" "export const other = 2" (by decide)
  refine ⟨alike, ?_, ?_, by decide⟩
  · intro same
    have texts := congrArg (List.map Notice.code) same
    exact absurd texts (by decide)
  · exact bundle_eq_of_alike Sink.memory { directory := some "dist" } menuStart alike {} Build.bareWorld

end Plugin

end DeclBundle
