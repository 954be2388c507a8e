import DeclBundle.Proofs.World

namespace DeclBundle

namespace Act

variable {σ σ' τ α α' β β' : Type}

/-- From related states both actions end with related results, or both fail with one error, and their states
are related again. -/
def Alike (R : α → α' → Prop) (S : σ → σ' → Prop) (a : Act σ α) (b : Act σ' α') : Prop :=
  ∀ s t, S s t →
    (∃ x s' y t', a s = .ok x s' ∧ b t = .ok y t' ∧ R x y ∧ S s' t') ∨
      ∃ e s' t', a s = .error e s' ∧ b t = .error e t' ∧ S s' t'

variable {R : α → α' → Prop} {S : σ → σ' → Prop} {a : Act σ α} {b : Act σ' α'}

theorem Alike.bind {Q : β → β' → Prop} {f : α → Act σ β} {g : α' → Act σ' β'} (first : Alike R S a b)
    (rest : ∀ x y, R x y → Alike Q S (f x) (g y)) : Alike Q S (a >>= f) (b >>= g) := by
  intro s t related
  simp only [Bind.bind, EStateM.bind]
  rcases first s t related with ⟨x, s', y, t', ran, ran', result, kept⟩ | ⟨e, s', t', ran, ran', kept⟩
  · rw [ran, ran']
    exact rest x y result s' t' kept
  · rw [ran, ran']
    exact .inr ⟨e, s', t', rfl, rfl, kept⟩

theorem alike_pure {x : α} {y : α'} (result : R x y) : Alike R S (pure x) (pure y) :=
  fun s t related => .inl ⟨x, s, y, t, rfl, rfl, result, related⟩

theorem Alike.map {Q : β → β' → Prop} {f : α → β} {g : α' → β'} (alike : Alike R S a b)
    (results : ∀ x y, R x y → Q (f x) (g y)) : Alike Q S (f <$> a) (g <$> b) := by
  rw [map_eq_pure_bind, map_eq_pure_bind]
  exact alike.bind fun x y result => alike_pure (results x y result)

theorem alike_throw (e : Error) : Alike R S (throw e) (throw e) :=
  fun s t related => .inr ⟨e, s, t, rfl, rfl, related⟩

theorem alike_get : Alike S S (get : Act σ σ) (get : Act σ' σ') :=
  fun s t related => .inl ⟨s, s, t, t, rfl, rfl, related, related⟩

theorem alike_set {s : σ} {t : σ'} (related : S s t) :
    Alike Eq S (set s : Act σ PUnit) (set t : Act σ' PUnit) :=
  fun _ _ _ => .inl ⟨⟨⟩, s, ⟨⟩, t, rfl, rfl, rfl, related⟩

theorem alike_modify {f : σ → σ} {g : σ' → σ'} (kept : ∀ s t, S s t → S (f s) (g t)) :
    Alike Eq S (modify f : Act σ PUnit) (modify g : Act σ' PUnit) :=
  fun s t related => .inl ⟨⟨⟩, f s, ⟨⟩, g t, rfl, rfl, rfl, kept s t related⟩

theorem alike_ofExcept (result : Except Error α) :
    Alike Eq S (ofExcept result : Act σ α) (ofExcept result : Act σ' α) := by
  intro s t related
  cases result with
  | ok x => exact .inl ⟨x, s, x, t, rfl, rfl, rfl, related⟩
  | error e => exact .inr ⟨e, s, t, rfl, rfl, related⟩

theorem Alike.andFinally {f : σ → σ} {g : σ' → σ'} (alike : Alike R S a b)
    (kept : ∀ s t, S s t → S (f s) (g t)) : Alike R S (a.andFinally f) (b.andFinally g) := by
  intro s t related
  unfold Act.andFinally
  rcases alike s t related with ⟨x, s', y, t', ran, ran', result, after⟩ | ⟨e, s', t', ran, ran', after⟩
  · rw [ran, ran']
    exact .inl ⟨x, f s', y, g t', rfl, rfl, result, kept s' t' after⟩
  · rw [ran, ran']
    exact .inr ⟨e, f s', g t', rfl, rfl, kept s' t' after⟩

theorem Alike.focus {ρ ρ' : Type} {T : ρ → ρ' → Prop} {get : ρ → σ} {set : ρ → σ → ρ} {get' : ρ' → σ'}
    {set' : ρ' → σ' → ρ'} (alike : Alike R S a b) (part : ∀ s t, T s t → S (get s) (get' t))
    (whole : ∀ s t, T s t → ∀ u v, S u v → T (set s u) (set' t v)) :
    Alike R T (Act.focus get set a) (Act.focus get' set' b) := by
  intro s t related
  unfold Act.focus
  rcases alike _ _ (part s t related) with
    ⟨x, u, y, v, ran, ran', result, kept⟩ | ⟨e, u, v, ran, ran', kept⟩
  · rw [ran, ran']
    exact .inl ⟨x, _, y, _, rfl, rfl, result, whole s t related u v kept⟩
  · rw [ran, ran']
    exact .inr ⟨e, _, _, rfl, rfl, whole s t related u v kept⟩

def Steady (S : σ → σ → Prop) (a : Act σ α) : Prop := Alike Eq S a a

theorem Steady.alike_bind {S : σ → σ → Prop} {R : β → β → Prop} {a : Act σ α} {f g : α → Act σ β}
    (first : Steady S a) (rest : ∀ x, Alike R S (f x) (g x)) : Alike R S (a >>= f) (a >>= g) := by
  refine Alike.bind first ?_
  rintro x _ rfl
  exact rest x

theorem Steady.bind {S : σ → σ → Prop} {a : Act σ α} {f : α → Act σ β} (first : Steady S a)
    (rest : ∀ x, Steady S (f x)) : Steady S (a >>= f) := first.alike_bind rest

theorem steady_pure {S : σ → σ → Prop} (x : α) : Steady S (pure x) := alike_pure rfl

def SameFirst (S : σ → σ' → Prop) (s : τ × σ) (t : τ × σ') : Prop := s.1 = t.1 ∧ S s.2 t.2

theorem Alike.second (alike : Alike R S a b) :
    Alike R (SameFirst S) (a.second : Act (τ × σ) α) (b.second : Act (τ × σ') α') :=
  alike.focus (fun _ _ related => related.2) fun _ _ related _ _ kept => ⟨related.1, kept⟩

end Act

namespace World

open Act (Alike)

variable {τ α : Type}

abbrev Blind (a : Act World α) : Prop := Act.Steady Logs a

abbrev BlindBeside (a : Act (τ × World) α) : Prop := Act.Steady (Act.SameFirst Logs) a

theorem Blind.reading {f : World → Act World α} (blind : ∀ w, Blind (f w))
    (same : ∀ w log, f { w with log := log } = f w) : Blind (get >>= f) := by
  refine Act.alike_get.bind ?_
  rintro w _ ⟨log, rfl⟩
  rw [same w log]
  exact blind w

theorem blind_note (level : Level) (area : Area) (text : String) : Blind (note level area text) := by
  apply Act.alike_modify
  rintro w _ ⟨log, rfl⟩
  exact ⟨_, rfl⟩

theorem blind_noteAll (records : List Record) : Blind (noteAll records) := by
  apply Act.alike_modify
  rintro w _ ⟨log, rfl⟩
  exact ⟨_, rfl⟩

theorem blind_readText (task : FileTask) (p : Path) : Blind (readText task p) := by
  rintro w _ ⟨log, rfl⟩
  unfold readText
  dsimp only
  split
  · exact .inl ⟨_, _, _, _, rfl, rfl, rfl, _, rfl⟩
  · exact .inr ⟨_, _, _, rfl, rfl, _, rfl⟩

theorem blind_writeText (task : FileTask) (p : Path) (text : String) : Blind (writeText task p text) := by
  rintro w _ ⟨log, rfl⟩
  unfold writeText
  dsimp only
  split
  · exact .inl ⟨_, _, _, _, rfl, rfl, rfl, _, rfl⟩
  · exact .inr ⟨_, _, _, rfl, rfl, _, rfl⟩

theorem blind_makePath (task : FileTask) (p : Path) : Blind (makePath task p) := by
  rintro w _ ⟨log, rfl⟩
  unfold makePath
  dsimp only
  split
  · exact .inl ⟨_, _, _, _, rfl, rfl, rfl, _, rfl⟩
  · exact .inr ⟨_, _, _, rfl, rfl, _, rfl⟩

theorem searchPath_log (w : World) (log : List Record) (here : Place) (command : String) (refused : Bool)
    (path : List String) :
    searchPath { w with log := log } here command refused path = searchPath w here command refused path := by
  induction path generalizing refused with
  | nil => rfl
  | cons directory rest ih =>
    unfold searchPath
    rw [ih, ih]
    rfl

theorem locate_log (w : World) (log : List Record) (here : Place) (command : Path) :
    locate { w with log := log } here command = locate w here command := by
  unfold locate
  rw [searchPath_log]
  rfl

theorem blind_run (command : Path) (arguments : List String) (directory : Path) :
    Blind (run command arguments directory) := by
  rintro w _ ⟨log, rfl⟩
  unfold run
  dsimp only
  split
  · exact .inr ⟨_, _, _, rfl, rfl, _, rfl⟩
  · rename_i place found
    rw [locate_log w log]
    cases w.locate place command with
    | error e => exact .inr ⟨_, _, _, rfl, rfl, _, rfl⟩
    | ok _ => exact .inl ⟨_, _, _, _, rfl, rfl, rfl, _, rfl⟩
  · exact .inr ⟨_, _, _, rfl, rfl, _, rfl⟩

end World

end DeclBundle
