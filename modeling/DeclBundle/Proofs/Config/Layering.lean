import DeclBundle.Config.Basic
import DeclBundle.Proofs.Build.Rerooting
import DeclBundle.Proofs.Module.Canonical
import DeclBundle.Proofs.Options.Layers

namespace DeclBundle

namespace Config

inductive Change where
  | layer (layer : ConfigLayer) (base : Path)
  | environment (lookup : String → Option String) (base : Path)

namespace Change

def put : Change → Act Config Unit
  | layer l base => modify fun c => c.apply l base
  | environment lookup base => applyEnvironment lookup base

def base : Change → Path
  | layer _ base => base
  | environment _ base => base

def includes? : Change → Option FilterSpec
  | layer l _ => l.includes
  | environment _ _ => none

def excludes? : Change → Option FilterSpec
  | layer l _ => l.excludes
  | environment _ _ => none

def root? : Change → Option Path
  | layer l base => l.root.map base.resolve
  | environment lookup base =>
    ((lookup rootVariable).filter (· ≠ "")).map fun root => base.resolve ⟨root⟩

def project? : Change → Option ProjectOverrides
  | layer l _ => l.project
  | environment _ _ => none

def cleanNames? : Change → Option Bool
  | layer l _ => l.cleanNames
  | environment lookup _ => (lookup cleanVariable).bind fun text => (readBoolean text).toOption

theorem exists_resolve {change : Change} {root : Path} (said : change.root? = some root) :
    ∃ p, change.base.resolve p = root := by
  cases change with
  | layer l base =>
    obtain ⟨p, -, resolved⟩ := Option.map_eq_some_iff.mp said
    exact ⟨p, resolved⟩
  | environment lookup base =>
    obtain ⟨text, -, resolved⟩ := Option.map_eq_some_iff.mp said
    exact ⟨⟨text⟩, resolved⟩

end Change

def putAll : List Change → Act Config Unit
  | [] => pure ()
  | change :: rest => do
    change.put
    putAll rest

variable {α : Type} {c c' : Config} {change : Change} {changes : List Change}

theorem applyRootVariable_eq (lookup : String → Option String) (base : Path) (c : Config) :
    c.applyRootVariable (lookup rootVariable) base =
      { c with root := ((Change.environment lookup base).root?).getD c.root } := by
  simp only [Change.root?]
  generalize lookup rootVariable = value
  unfold applyRootVariable
  split
  · rfl
  · rfl
  · rename_i root filled
    have kept : (some root).filter (· ≠ "") = some root := by
      rw [Option.filter_some, if_pos]
      exact decide_eq_true filled
    rw [kept]
    rfl

theorem eq_of_put (put : change.put c = .ok () c') :
    c' = { includes := change.includes?.getD c.includes
           excludes := change.excludes?.getD c.excludes
           root := change.root?.getD c.root
           project := mergeProject c.project change.project?
           cleanNames := change.cleanNames?.getD c.cleanNames } := by
  cases change with
  | layer l base =>
    cases put
    rfl
  | environment lookup base =>
    have same : mergeProject c.project none = c.project := by
      cases h : c.project <;> rfl
    simp only [Change.put, applyEnvironment, applyRootVariable_eq] at put
    cases given : lookup cleanVariable with
    | none =>
      rw [given] at put
      cases put
      simp only [Change.project?, Change.cleanNames?, given, same]
      rfl
    | some text =>
      simp only [given] at put
      cases read : readBoolean text with
      | error word =>
        rw [read] at put
        cases put
      | ok clean =>
        rw [read] at put
        cases put
        simp only [Change.project?, Change.cleanNames?, given, same, Option.bind_some, read]
        rfl

theorem exists_of_putAll {rest : List Change} (put : putAll (change :: rest) c = .ok () c') :
    ∃ c₁, change.put c = .ok () c₁ ∧ putAll rest c₁ = .ok () c' := by
  simp only [putAll, Bind.bind, EStateM.bind] at put
  cases first : change.put c with
  | error e c₁ =>
    rw [first] at put
    cases put
  | ok _ c₁ =>
    rw [first] at put
    exact ⟨c₁, rfl, put⟩

/-- Each change that succeeds leaves what it says, or what was there if it says nothing. -/
def Follows (view : Config → Option α) (said : Change → Option α) : Prop :=
  ∀ change c c', Change.put change c = .ok () c' → view c' = (said change).or (view c)

theorem Follows.putAll {view : Config → Option α} {said : Change → Option α}
    (follows : Follows view said) (put : putAll changes c = .ok () c') :
    view c' = (lastSaid said changes).or (view c) := by
  induction changes generalizing c with
  | nil =>
    cases put
    rfl
  | cons change rest ih =>
    obtain ⟨c₁, first, later⟩ := exists_of_putAll put
    rw [ih later, follows change c c₁ first, ← Option.or_assoc, ← lastSaid_singleton said change,
      ← lastSaid_append, List.singleton_append]

theorem follows_includes : Follows (fun c => some c.includes) Change.includes? := by
  intro change c c' put
  rw [eq_of_put put, Option.or_some]

theorem follows_excludes : Follows (fun c => some c.excludes) Change.excludes? := by
  intro change c c' put
  rw [eq_of_put put, Option.or_some]

theorem follows_root : Follows (fun c => some c.root) Change.root? := by
  intro change c c' put
  rw [eq_of_put put, Option.or_some]

theorem follows_cleanNames : Follows (fun c => some c.cleanNames) Change.cleanNames? := by
  intro change c c' put
  rw [eq_of_put put, Option.or_some]

theorem isSome_mergeProject (lower upper : Option ProjectOverrides) :
    (mergeProject lower upper).isSome = (upper.isSome || lower.isSome) := by
  cases lower <;> cases upper <;> rfl

theorem bind_mergeProject {field : ProjectOverrides → Option α} (settles : ProjectOverrides.Settles field)
    (lower upper : Option ProjectOverrides) :
    (mergeProject lower upper).bind field = (upper.bind field).or (lower.bind field) := by
  cases lower with
  | none => cases upper <;> simp [mergeProject]
  | some lower =>
    cases upper with
    | none => simp [mergeProject]
    | some upper => exact settles lower upper

theorem follows_field {field : ProjectOverrides → Option α} (settles : ProjectOverrides.Settles field) :
    Follows (fun c => c.project.bind field) fun change => change.project?.bind field := by
  intro change c c' put
  rw [eq_of_put put]
  exact bind_mergeProject settles c.project change.project?

structure Settled (changes : List Change) (c c' : Config) : Prop where
  includes : c'.includes = (lastSaid Change.includes? changes).getD c.includes
  excludes : c'.excludes = (lastSaid Change.excludes? changes).getD c.excludes
  root : c'.root = (lastSaid Change.root? changes).getD c.root
  cleanNames : c'.cleanNames = (lastSaid Change.cleanNames? changes).getD c.cleanNames
  project : c'.project.isSome ↔ c.project.isSome ∨ ∃ change ∈ changes, change.project?.isSome
  tsconfigPath : c'.project.bind (·.tsconfigPath) =
    (lastSaid (fun change => change.project?.bind (·.tsconfigPath)) changes).or
      (c.project.bind (·.tsconfigPath))
  skipListedFiles : c'.project.bind (·.skipListedFiles) =
    (lastSaid (fun change => change.project?.bind (·.skipListedFiles)) changes).or
      (c.project.bind (·.skipListedFiles))
  option (key : String) : c'.project.bind (·.options[key]?) =
    (lastSaid (fun change => change.project?.bind (·.options[key]?)) changes).or
      (c.project.bind (·.options[key]?))

theorem project_of_putAll (put : putAll changes c = .ok () c') :
    c'.project.isSome ↔ c.project.isSome ∨ ∃ change ∈ changes, change.project?.isSome := by
  induction changes generalizing c with
  | nil =>
    cases put
    simp
  | cons change rest ih =>
    obtain ⟨c₁, first, later⟩ := exists_of_putAll put
    have one : c₁.project.isSome = (change.project?.isSome || c.project.isSome) := by
      rw [eq_of_put first]
      exact isSome_mergeProject c.project change.project?
    rw [ih later, one, Bool.or_eq_true, List.exists_mem_cons_iff]
    tauto

theorem root_of_putAll {P : Path → Prop} (start : P c.root)
    (set : ∀ change ∈ changes, ∀ p, P (change.base.resolve p)) (put : putAll changes c = .ok () c') :
    P c'.root := by
  have after := follows_root.putAll put
  cases last : lastSaid Change.root? changes with
  | none =>
    rw [last, Option.none_or] at after
    rwa [Option.some.inj after]
  | some root =>
    rw [last, Option.some_or] at after
    obtain ⟨change, member, said⟩ := exists_of_lastSaid last
    obtain ⟨p, rfl⟩ := change.exists_resolve said
    rw [Option.some.inj after]
    exact set change member p

/-- Whatever changes are made in whatever order, what the last of them says of a field counts. Below absolute
directories the root stays absolute and normal all the time. -/
theorem settled_of_putAll (put : putAll changes c = .ok () c') :
    Settled changes c c' ∧
      (∀ before between, before <+: changes → putAll before c = .ok () between →
        (∀ change ∈ changes, change.base.isRooted) →
          (c.root.IsNormal → between.root.IsNormal) ∧ (c.root.IsCanonical → between.root.IsCanonical)) ∧
      ∀ lower middle upper : ProjectOverrides,
        (lower.merge middle).merge upper = lower.merge (middle.merge upper) ∧
          middle.merge {} = middle ∧ ProjectOverrides.merge {} middle = middle := by
  have value {β : Type} {x y : β} {o : Option β} (same : some x = o.or (some y)) : x = o.getD y := by
    rw [Option.or_some] at same
    exact Option.some.inj same
  refine ⟨?_, ?_, ?_⟩
  · exact {
      includes := value (follows_includes.putAll put)
      excludes := value (follows_excludes.putAll put)
      root := value (follows_root.putAll put)
      cleanNames := value (follows_cleanNames.putAll put)
      project := project_of_putAll put
      tsconfigPath := (follows_field ProjectOverrides.settles_tsconfigPath).putAll put
      skipListedFiles := (follows_field ProjectOverrides.settles_skipListedFiles).putAll put
      option := fun key => (follows_field (ProjectOverrides.settles_option key)).putAll put }
  · intro before between front put' rooted
    have set : ∀ change ∈ before, ∀ p, (change.base.resolve p).IsNormal := by
      intro change member p
      have canonical : (change.base.resolve p).IsCanonical := Path.isCanonical_normalize _
      refine ⟨Path.isRooted_resolve p (rooted change (front.subset member)), ?_⟩
      rw [canonical]
      exact Path.same_refl _
    exact ⟨fun normal => root_of_putAll normal set put', fun canonical =>
      root_of_putAll canonical (fun _ _ _ => Path.isCanonical_normalize _) put'⟩
  · intro lower middle upper
    exact ⟨lower.merge_assoc middle upper, middle.merge_empty, middle.empty_merge⟩

def deskChanges : List Change :=
  [.layer { root := some "app"
            project := some { options := .ofFields [("target", .text "ES2019"), ("strict", .boolean true)] } }
      "/proj",
    .layer { project := some { options := .ofFields [("target", .text "ES2022")] } } "/elsewhere",
    .environment (fun name => if name = cleanVariable then some " Yes" else some "") "/home"]

theorem settled_of_putAll_desk :
    ∃ c', putAll deskChanges (initial "/proj") = .ok () c' ∧ Settled deskChanges (initial "/proj") c' ∧
      c'.root = "/proj/app" ∧ c'.root.IsNormal ∧ c'.cleanNames = true ∧
      c'.project.bind (·.options["target"]?) = some (.text "ES2022") ∧
      c'.project.bind (·.options["strict"]?) = some (.boolean true) := by
  obtain ⟨c', put⟩ : ∃ c', putAll deskChanges (initial "/proj") = .ok () c' := ⟨_, rfl⟩
  obtain ⟨settled, roots, -⟩ := settled_of_putAll put
  have rooted : ∀ change ∈ deskChanges, change.base.isRooted := by decide
  have root : lastSaid Change.root? deskChanges = some "/proj/app" := by decide
  have clean : lastSaid Change.cleanNames? deskChanges = some true := by decide
  have target : lastSaid (fun change => change.project?.bind (·.options["target"]?)) deskChanges =
      some (.text "ES2022") := rfl
  have strict : lastSaid (fun change => change.project?.bind (·.options["strict"]?)) deskChanges =
      some (.boolean true) := rfl
  refine ⟨c', put, settled, ?_, ?_, ?_, ?_, ?_⟩
  · rw [settled.root, root]
    rfl
  · exact (roots deskChanges c' List.prefix_rfl put rooted).1 ⟨by decide, by decide⟩
  · rw [settled.cleanNames, clean]
    rfl
  · rw [settled.option, target]
    rfl
  · rw [settled.option, strict]
    rfl

end Config

end DeclBundle
