import DeclBundle.Proofs.Build.History
import DeclBundle.Proofs.Engine.Registration

namespace DeclBundle

/-- Nothing, or a module is admitted and something is held of it. -/
abbrev Ruling (α : Type) := Except Error (Option (Admission × α))

structure Books (α : Type) where
  registry : Registry
  sources : Sources α

namespace Books

variable {α : Type}

def enter (b : Books α) (a : Admission) : Except Error SourceId × Sources α →
    Except Error (Option Handle) × Books α
  | (.ok id, sources) =>
    (.ok (some ⟨id, a.logicalPath, a.kind⟩), ⟨b.registry.push ⟨id, a.logicalPath, a.kind⟩, sources⟩)
  | (.error e, sources) => (.error e, ⟨b.registry, sources⟩)

def turn (full : Error) (b : Books α) : Ruling α → Except Error (Option Handle) × Books α
  | .ok (some (a, x)) => b.enter a (b.sources.take full a.logicalPath (.ok x))
  | .ok none => (.ok none, b)
  | .error e => (.error e, b)

def turns (full : Error) : List (Ruling α) → Books α → List (Except Error (Option Handle)) × Books α
  | [], b => ([], b)
  | ruling :: rest, b =>
    let t := b.turn full ruling
    let u := turns full rest t.2
    (t.1 :: u.1, u.2)

def push (b : Books α) (a : Admission) (x : α) : Books α :=
  let (sources, i) := b.sources.insert a.logicalPath x
  ⟨b.registry.push ⟨⟨i⟩, a.logicalPath, a.kind⟩, sources⟩

theorem turn_map (full : Error) (b : Books α) (a : Admission) (held : Except Error α) :
    b.turn full (held.map fun x => some (a, x)) = b.enter a (b.sources.take full a.logicalPath held) := by
  cases held <;> rfl

theorem turn_cases (full : Error) (b : Books α) (a : Admission) (x : α) :
    let i := (b.sources.insert a.logicalPath x).2
    i < SourceId.limit ∧
        b.turn full (.ok (some (a, x))) = (.ok (some ⟨⟨i⟩, a.logicalPath, a.kind⟩), b.push a x) ∨
      SourceId.limit ≤ i ∧ b.turn full (.ok (some (a, x))) =
        (.error full, ⟨b.registry, (b.sources.insert a.logicalPath x).1⟩) := by
  intro i
  cases number : (b.sources.register a.logicalPath x).2 with
  | ok id =>
    obtain ⟨below, rfl⟩ := SourceId.ofIndex_eq_ok_iff.mp number
    exact .inl ⟨below, congrArg (b.enter a) (Sources.take_of_ok full number)⟩
  | error e =>
    have beyond := (SourceId.ofIndex_eq_error_iff.mp number).1
    exact .inr ⟨beyond, congrArg (b.enter a) (Sources.take_of_error full number)⟩

structure Overrun (full : Error) (b : Books α) (ruling : Ruling α) (result : Except Error (Option Handle))
    (b' : Books α) : Prop where
  told : result = .error full
  registry : b'.registry = b.registry
  entered : ∃ a x, ruling = .ok (some (a, x)) ∧
    SourceId.limit ≤ (b.sources.insert a.logicalPath x).2 ∧
    b'.sources = (b.sources.insert a.logicalPath x).1

end Books

namespace Plugin

variable {ε α : Type} {engine : Engine ε} {sources : ε → Sources α} {intake : Intake α}

def ruling (intake : Intake α) (filter : PathFilter) (root : Path) (w : World) (code id : String) :
    Ruling α :=
  if code.isEmpty then .ok none
  else if !filter.accepts id then .ok none
  else match classify id root with
    | none => .ok none
    | some a => (intake.held w code a).map fun x => some (a, x)

theorem ruling_of_admits {p : Plugin ε} {code id : String} {a : Admission} (admits : p.Admits code id a)
    (w : World) : ruling intake p.filter p.config.root w code id =
      (intake.held w code a).map fun x => some (a, x) := by
  simp only [ruling, admits.full, admits.accepted, admits.classified, Bool.not_true, Bool.false_eq_true, if_false]

theorem ruling_of_not_admits {p : Plugin ε} {code id : String} (refused : ∀ a, ¬p.Admits code id a)
    (w : World) : ruling intake p.filter p.config.root w code id = .ok none := by
  unfold ruling
  split
  · rfl
  · rename_i full
    split
    · rfl
    · rename_i accepted
      split
      · rfl
      · rename_i a classified
        exact absurd ⟨full, by simpa using accepted, classified⟩ (refused a)

def books (sources : ε → Sources α) (p : Plugin ε) : Books α := ⟨p.registry, sources p.engine⟩

/-- The plugin has come from `p` by a ruling, which gave the result; else only the log may have grown. -/
structure Turned (sources : ε → Sources α) (full : Error) (p : Plugin ε) (w : World) (ruling : Ruling α)
    (result : Except Error (Option Handle)) (t : Plugin ε × World) : Prop where
  config : t.1.config = p.config
  filter : t.1.filter = p.filter
  logs : w.Logs t.2
  books : (result, t.1.books sources) = (p.books sources).turn full ruling

theorem turned_none (sources : ε → Sources α) (full : Error) (p : Plugin ε) {w t : World} (logs : w.Logs t) :
    Turned sources full p w (.ok none) (.ok none) (p, t) := ⟨rfl, rfl, logs, rfl⟩

theorem turned_enroll (registers : engine.Registers sources intake) (code id : String) (a : Admission)
    (p : Plugin ε) (w : World) :
    Act.Ends (enroll engine code id a) (p, w)
      (fun h => Turned sources intake.full p w ((intake.held w code a).map fun x => some (a, x))
        (.ok (some h)))
      fun e => Turned sources intake.full p w ((intake.held w code a).map fun x => some (a, x))
        (.error e) := by
  apply ends_enroll_cases
  intro t logs
  have entered : Engine.Enters sources intake.full p.engine t a.logicalPath (intake.held w code a)
      (registration engine code a) := by
    rw [← registers.held_of_logs logs]
    cases a with
    | script component lang => exact registers.addText ..
    | standalone path => exact registers.addFile ..
  refine Act.Ends.mono entered ?_ ?_
  · rintro source u ⟨more, taken⟩ v noted
    refine ⟨rfl, rfl, logs.trans (more.trans noted), ?_⟩
    rw [Books.turn_map]
    exact congrArg ((p.books sources).enter a) taken
  · rintro error u ⟨more, taken⟩
    refine ⟨rfl, rfl, logs.trans more, ?_⟩
    rw [Books.turn_map]
    exact congrArg ((p.books sources).enter a) taken

theorem turned_transform (registers : engine.Registers sources intake) (code id : String) (p : Plugin ε)
    (w : World) :
    Act.Ends (transform engine code id) (p, w)
      (fun h => Turned sources intake.full p w (ruling intake p.filter p.config.root w code id) (.ok h))
      fun e => Turned sources intake.full p w (ruling intake p.filter p.config.root w code id) (.error e) := by
  apply ends_transform_cases
  · intro refused t logs
    rw [ruling_of_not_admits refused]
    exact turned_none sources intake.full p logs
  · intro a admits t noted
    have enrolled := turned_enroll registers code id a p t
    rw [registers.held_of_logs noted] at enrolled
    rw [ruling_of_admits admits]
    refine enrolled.mono ?_ ?_
    · rintro h t ⟨config, filter, logs, turned⟩
      exact ⟨config, filter, noted.trans logs, turned⟩
    · rintro e t ⟨config, filter, logs, turned⟩
      exact ⟨config, filter, noted.trans logs, turned⟩

theorem turned_notice (registers : engine.Registers sources intake) (n : Notice)
    (s : Plugin ε × World) :
    let t := notice engine n s
    t.1.world = n.meanwhile s.2 ∧ Turned sources intake.full s.1 t.1.world
      (ruling intake s.1.filter s.1.config.root t.1.world n.code n.id) t.1.result t.2 :=
  ⟨rfl, (turned_transform registers n.code n.id s.1 (n.meanwhile s.2)).outcome_result
    (P := Turned sources intake.full s.1 _ _)⟩

def rulings (intake : Intake α) (filter : PathFilter) (root : Path) (ns : List Notice)
    (answers : List Answer) : List (Ruling α) :=
  List.zipWith (fun n answer => ruling intake filter root answer.world n.code n.id) ns answers

theorem turns_noticeAll (registers : engine.Registers sources intake) (ns : List Notice)
    (s : Plugin ε × World) :
    let t := noticeAll engine ns s
    t.2.1.config = s.1.config ∧ t.2.1.filter = s.1.filter ∧
      (t.1.map Answer.result, t.2.1.books sources) =
        (s.1.books sources).turns intake.full (rulings intake s.1.filter s.1.config.root ns t.1) := by
  induction ns generalizing s with
  | nil => exact ⟨rfl, rfl, rfl⟩
  | cons n rest ih =>
    obtain ⟨-, config, filter, -, turned⟩ := turned_notice registers n s
    obtain ⟨config', filter', turned'⟩ := ih (notice engine n s).2
    refine ⟨config'.trans config, filter'.trans filter, ?_⟩
    -- No notice changes the root or the filter, by which the later ones are ruled on.
    rw [config, filter] at turned'
    simp only [noticeAll, rulings, List.zipWith_cons_cons, List.map_cons, Books.turns]
    rw [← turned]
    simp only [rulings] at turned'
    rw [← turned']

end Plugin

end DeclBundle
