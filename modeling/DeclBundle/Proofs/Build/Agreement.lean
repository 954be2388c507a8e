import DeclBundle.Proofs.Build.Books
import DeclBundle.Proofs.Module.Canonical

namespace DeclBundle

namespace Books

variable {α : Type}

/-- Every module stands among the sources under its number and its path, and every source that has a number is
there for a module. -/
structure Agree (b : Books α) : Prop where
  canonical : ∀ q ∈ b.sources.paths, q.IsCanonical
  nodup : b.sources.paths.Nodup
  numbered : ∀ h ∈ b.registry.handles, b.sources.paths[h.id.index]? = some h.logicalPath
  held : ∀ i < SourceId.limit, ∀ q, b.sources.paths[i]? = some q →
    ∃ h ∈ b.registry.handles, h.logicalPath = q

theorem Agree.nodup_insert {b : Books α} (agree : b.Agree) (p : Path) (x : α) :
    (b.sources.insert p x).1.paths.Nodup := by
  rcases b.sources.paths_insert_cases p x with ⟨kept, -⟩ | ⟨more, -, unknown⟩
  · exact kept ▸ agree.nodup
  · have apart : p ∉ b.sources.paths := fun member => unknown p member p.same_refl
    rw [more]
    exact agree.nodup.append (List.nodup_singleton _) (List.disjoint_singleton.mpr apart)

theorem Agree.getElem?_insert {b : Books α} (agree : b.Agree) {p : Path} (canonical : p.IsCanonical)
    (x : α) : (b.sources.insert p x).1.paths[(b.sources.insert p x).2]? = some p := by
  rcases b.sources.paths_insert_cases p x with ⟨kept, q, there, same⟩ | ⟨more, last, -⟩
  · -- The path that stands there names the same, and both are written the shortest way.
    have first := agree.canonical q (List.mem_of_getElem? there)
    obtain rfl := (first.same_iff canonical).mp same
    rw [kept, there]
  · rw [more, last]
    exact List.getElem?_concat_length

theorem Agree.push {b : Books α} (agree : b.Agree) {a : Admission}
    (canonical : a.logicalPath.IsCanonical) (x : α) : (b.push a x).Agree := by
  let number := (b.sources.insert a.logicalPath x).2
  have handles : (b.push a x).registry.handles =
      b.registry.handles ++ [⟨⟨number⟩, a.logicalPath, a.kind⟩] := rfl
  refine ⟨Sources.forall_paths_insert agree.canonical canonical x, agree.nodup_insert _ x, ?_, ?_⟩
  · rw [handles]
    intro h member
    rcases List.mem_append.mp member with old | last
    · exact Sources.getElem?_paths_insert (agree.numbered h old) _ _
    · rw [List.mem_singleton.mp last]
      exact agree.getElem?_insert canonical x
  · rw [handles]
    intro i below q there
    by_cases new : i = number
    · subst new
      have last := there.symm.trans (agree.getElem?_insert canonical x)
      exact ⟨_, List.mem_append_right _ (List.mem_singleton_self _), (Option.some.inj last).symm⟩
    · obtain ⟨h, old, path⟩ := agree.held i below q (Sources.getElem?_of_paths_insert there new)
      exact ⟨h, List.mem_append_left _ old, path⟩

theorem Agree.overrun {b : Books α} (agree : b.Agree) {p : Path} (canonical : p.IsCanonical) (x : α)
    (beyond : SourceId.limit ≤ (b.sources.insert p x).2) :
    (⟨b.registry, (b.sources.insert p x).1⟩ : Books α).Agree where
  canonical := Sources.forall_paths_insert agree.canonical canonical x
  nodup := agree.nodup_insert _ x
  numbered h member := Sources.getElem?_paths_insert (agree.numbered h member) _ _
  held i below q there :=
    agree.held i below q (Sources.getElem?_of_paths_insert there (Nat.ne_of_lt (below.trans_le beyond)))

def Canonical (ruling : Ruling α) : Prop :=
  ∀ a x, ruling = .ok (some (a, x)) → a.logicalPath.IsCanonical

variable (full : Error)

theorem Agree.turn {b : Books α} (agree : b.Agree) {ruling : Ruling α} (canonical : Canonical ruling) :
    (b.turn full ruling).2.Agree := by
  rcases ruling with e | _ | ⟨a, x⟩
  · exact agree
  · exact agree
  · have place := canonical a x rfl
    rcases turn_cases full b a x with ⟨-, turned⟩ | ⟨beyond, turned⟩
    · rw [turned]
      exact agree.push place x
    · rw [turned]
      exact agree.overrun place x beyond

theorem Agree.turns {b : Books α} (agree : b.Agree) {rulings : List (Ruling α)}
    (canonical : ∀ ruling ∈ rulings, Canonical ruling) : (b.turns full rulings).2.Agree := by
  induction rulings generalizing b with
  | nil => exact agree
  | cons ruling rest ih =>
    have next := agree.turn full (canonical ruling (by simp))
    exact ih next fun ruling member => canonical ruling (by simp [member])

def unnumbered (result : Except Error (Option Handle)) : Except Error (Option (Path × ModuleKind)) :=
  result.map (Option.map fun h => (h.logicalPath, h.kind))

def place (ruling : Ruling α) : Except Error (Option (Path × ModuleKind)) :=
  ruling.map (Option.map fun (a, _) => (a.logicalPath, a.kind))

def Answered (full : Error) (size : Nat) (ruling : Ruling α) (result : Except Error (Option Handle)) :
    Prop :=
  unnumbered result = place ruling ∨
    (∃ a x, ruling = .ok (some (a, x))) ∧ result = .error full ∧ SourceId.limit < size

theorem answered_turn (b : Books α) (ruling : Ruling α) :
    Answered full (b.turn full ruling).2.sources.paths.length ruling (b.turn full ruling).1 := by
  rcases ruling with e | _ | ⟨a, x⟩
  · exact .inl rfl
  · exact .inl rfl
  · rcases turn_cases full b a x with ⟨-, turned⟩ | ⟨beyond, turned⟩
    · rw [turned]
      exact .inl rfl
    · rw [turned]
      exact .inr ⟨⟨a, x, rfl⟩, rfl, beyond.trans_lt (b.sources.index_insert_lt _ _)⟩

theorem Answered.mono {full : Error} {m n : Nat} {ruling : Ruling α}
    {result : Except Error (Option Handle)} (answered : Answered full m ruling result) (le : m ≤ n) :
    Answered full n ruling result := by
  rcases answered with told | ⟨admits, overran, beyond⟩
  · exact .inl told
  · exact .inr ⟨admits, overran, beyond.trans_le le⟩

theorem length_paths_turn (b : Books α) (ruling : Ruling α) :
    b.sources.paths.length ≤ (b.turn full ruling).2.sources.paths.length ∧
      (b.turn full ruling).2.sources.paths.length ≤ b.sources.paths.length + 1 := by
  rcases ruling with e | _ | ⟨a, x⟩
  · exact ⟨le_rfl, Nat.le_succ _⟩
  · exact ⟨le_rfl, Nat.le_succ _⟩
  · rcases turn_cases full b a x with ⟨-, turned⟩ | ⟨-, turned⟩
    · rw [turned]
      exact b.sources.length_paths_insert a.logicalPath x
    · rw [turned]
      exact b.sources.length_paths_insert a.logicalPath x

theorem length_paths_turns (b : Books α) (rulings : List (Ruling α)) :
    b.sources.paths.length ≤ (b.turns full rulings).2.sources.paths.length ∧
      (b.turns full rulings).2.sources.paths.length ≤ b.sources.paths.length + rulings.length := by
  induction rulings generalizing b with
  | nil => exact ⟨le_rfl, le_rfl⟩
  | cons ruling rest ih =>
    have first := length_paths_turn full b ruling
    have later := ih (b.turn full ruling).2
    simp only [turns, List.length_cons]
    omega

theorem answered_turns (b : Books α) (rulings : List (Ruling α)) :
    List.Forall₂ (Answered full (b.turns full rulings).2.sources.paths.length) rulings
      (b.turns full rulings).1 := by
  induction rulings generalizing b with
  | nil => exact .nil
  | cons ruling rest ih =>
    have later := (length_paths_turns full (b.turn full ruling).2 rest).1
    exact .cons ((answered_turn full b ruling).mono later) (ih _)

theorem unnumbered_of_answered {size : Nat} {rulings : List (Ruling α)}
    {results : List (Except Error (Option Handle))}
    (answered : List.Forall₂ (Answered full size) rulings results) (room : size ≤ SourceId.limit) :
    results.map unnumbered = rulings.map place := by
  induction answered with
  | nil => rfl
  | cons first _ ih =>
    have told := first.resolve_right fun overrun => Nat.not_lt.mpr room overrun.2.2
    rw [List.map_cons, List.map_cons, told, ih]

end Books

namespace Plugin

variable {ε α : Type} {engine : Engine ε} {sources : ε → Sources α} {intake : Intake α}

theorem classify_of_ruling {filter : PathFilter} {root : Path} {w : World} {code id : String}
    {a : Admission} {x : α} (admits : ruling intake filter root w code id = .ok (some (a, x))) :
    classify id root = some a := by
  unfold ruling at admits
  split at admits
  · cases admits
  · split at admits
    · cases admits
    · split at admits
      · cases admits
      · rename_i a' found
        cases held : intake.held w code a' with
        | error e =>
          rw [held] at admits
          cases admits
        | ok y =>
          rw [held] at admits
          cases admits
          exact found

theorem canonical_ruling (filter : PathFilter) (root : Path) (w : World) (code id : String) :
    Books.Canonical (ruling intake filter root w code id) := by
  intro a x admits
  exact isCanonical_of_classify (classify_of_ruling admits)

theorem ends_create_books (registers : engine.Registers sources intake) (config : Config) (w : World) :
    Act.Ends (create engine config) w
      (fun p _ => p.config = config ∧ config.filter = .ok p.filter ∧
        p.books sources = ⟨.empty, .empty⟩)
      fun _ _ => True := by
  simp only [create, Act.ends_bind, Act.ends_ofExcept, World.ends_noteAll, World.ends_note,
    Act.ends_mapError, Act.ends_pure]
  refine ⟨fun filter found => ?_, fun _ _ => trivial⟩
  refine (registers.create config.projectOptions _).mono ?_ fun _ _ _ => trivial
  intro e t none
  exact ⟨trivial, found, by rw [books, none]⟩

end Plugin

end DeclBundle
