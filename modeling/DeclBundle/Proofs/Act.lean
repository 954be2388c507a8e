import DeclBundle.Act

namespace DeclBundle.Act

variable {σ τ α β : Type}

/-- From `s` the action ends with a result and a state that fulfil `good`, or with an error and a state
that fulfil `bad`. -/
def Ends (a : Act σ α) (s : σ) (good : α → σ → Prop) (bad : Error → σ → Prop) : Prop :=
  match a s with
  | .ok x t => good x t
  | .error e t => bad e t

variable {good : α → σ → Prop} {bad : Error → σ → Prop}

theorem Ends.ok {a : Act σ α} {s t : σ} {x : α} (ends : Ends a s good bad) (run : a s = .ok x t) :
    good x t := by
  unfold Ends at ends
  rwa [run] at ends

theorem Ends.error {a : Act σ α} {s t : σ} {e : Error} (ends : Ends a s good bad)
    (run : a s = .error e t) : bad e t := by
  unfold Ends at ends
  rwa [run] at ends

theorem Ends.of_runs {a : Act σ α} {s : σ} (ok : ∀ x t, a s = .ok x t → good x t)
    (error : ∀ e t, a s = .error e t → bad e t) : Ends a s good bad := by
  unfold Ends
  split
  · exact ok _ _ ‹_›
  · exact error _ _ ‹_›

theorem Ends.outcome_result {a : Act σ α} {s : σ} {P : Except Error α → σ → Prop}
    (ends : Ends a s (fun x => P (.ok x)) fun e => P (.error e)) :
    P (a.outcome s).1 (a.outcome s).2 := by
  unfold Ends at ends
  unfold Act.outcome
  split <;> simp_all

theorem Ends.outcome {a : Act σ α} {s : σ} {kept : σ → Prop}
    (ends : Ends a s (fun _ => kept) fun _ => kept) : kept (a.outcome s).2 :=
  ends.outcome_result (P := fun _ => kept)

theorem outcome_of_ends {a : Act σ α} {s : σ} {result : Except Error α}
    (ends : Ends a s (fun x _ => result = .ok x) fun e _ => result = .error e) :
    (a.outcome s).1 = result := (ends.outcome_result (P := fun r _ => result = r)).symm

theorem Ends.mono {a : Act σ α} {s : σ} {good' : α → σ → Prop} {bad' : Error → σ → Prop}
    (ends : Ends a s good bad) (ok : ∀ x t, good x t → good' x t)
    (error : ∀ e t, bad e t → bad' e t) : Ends a s good' bad' :=
  .of_runs (fun x t run => ok x t (ends.ok run)) fun e t run => error e t (ends.error run)

theorem Ends.and {a : Act σ α} {s : σ} {good' : α → σ → Prop} {bad' : Error → σ → Prop}
    (ends : Ends a s good bad) (also : Ends a s good' bad') :
    Ends a s (fun x t => good x t ∧ good' x t) fun e t => bad e t ∧ bad' e t :=
  .of_runs (fun _ _ run => ⟨ends.ok run, also.ok run⟩) fun _ _ run => ⟨ends.error run, also.error run⟩

theorem focus_bind {get : σ → τ} {set : σ → τ → σ} (get_set : ∀ s t, get (set s t) = t)
    (set_set : ∀ s t t', set (set s t) t' = set s t') (a : Act τ β) (f : β → Act τ α) :
    focus get set (a >>= f) = focus get set a >>= fun x => focus get set (f x) := by
  funext s
  simp only [focus, bind, EStateM.bind]
  cases a (get s) with
  | ok x t => simp only [get_set, set_set]
  | error e t => rfl

@[simp] theorem ends_pure (x : α) (s : σ) : Ends (pure x) s good bad ↔ good x s := Iff.rfl

@[simp] theorem ends_bind (a : Act σ β) (f : β → Act σ α) (s : σ) :
    Ends (a >>= f) s good bad ↔ Ends a s (fun x t => Ends (f x) t good bad) bad := by
  simp only [Ends, bind, EStateM.bind]
  cases a s <;> rfl

theorem Ends.after {a : Act σ β} {f : β → Act σ α} {s : σ}
    (last : ∀ x t, Ends (f x) t good fun _ _ => True) : Ends (a >>= f) s good fun _ _ => True :=
  (ends_bind a f s).mpr (.of_runs (fun x t _ => last x t) fun _ _ _ => trivial)

@[simp] theorem ends_map (f : β → α) (a : Act σ β) (s : σ) :
    Ends (f <$> a) s good bad ↔ Ends a s (fun x t => good (f x) t) bad := by
  simp only [Ends, Functor.map, EStateM.map]
  cases a s <;> rfl

@[simp] theorem ends_get {good : σ → σ → Prop} (s : σ) :
    Ends (get : Act σ σ) s good bad ↔ good s s := Iff.rfl

@[simp] theorem ends_set {good : PUnit → σ → Prop} (s t : σ) :
    Ends (set t : Act σ PUnit) s good bad ↔ good () t := Iff.rfl

@[simp] theorem ends_modify {good : PUnit → σ → Prop} (f : σ → σ) (s : σ) :
    Ends (modify f : Act σ PUnit) s good bad ↔ good () (f s) := Iff.rfl

@[simp] theorem ends_throw (e : Error) (s : σ) :
    Ends (throw e : Act σ α) s good bad ↔ bad e s := Iff.rfl

@[simp] theorem ends_ofExcept (r : Except Error α) (s : σ) :
    Ends (ofExcept r) s good bad ↔
      (∀ x, r = .ok x → good x s) ∧ (∀ e, r = .error e → bad e s) := by
  cases r <;> simp [Ends, ofExcept]

@[simp] theorem ends_focus (get : σ → τ) (set : σ → τ → σ) (a : Act τ α) (s : σ) :
    Ends (focus get set a) s good bad ↔
      Ends a (get s) (fun x t => good x (set s t)) (fun e t => bad e (set s t)) := by
  simp only [Ends, focus]
  cases a (get s) <;> rfl

@[simp] theorem ends_mapError (f : Error → Error) (a : Act σ α) (s : σ) :
    Ends (mapError f a) s good bad ↔ Ends a s good fun e t => bad (f e) t := by
  simp only [Ends, mapError]
  cases a s <;> rfl

@[simp] theorem ends_andFinally (a : Act σ α) (cleanup : σ → σ) (s : σ) :
    Ends (andFinally a cleanup) s good bad ↔
      Ends a s (fun x t => good x (cleanup t)) (fun e t => bad e (cleanup t)) := by
  simp only [Ends, andFinally]
  cases a s <;> rfl

@[simp] theorem ends_second {good : α → σ × τ → Prop} {bad : Error → σ × τ → Prop} (a : Act τ α)
    (s : σ × τ) : Ends (second a) s good bad ↔
      Ends a s.2 (fun x t => good x (s.1, t)) (fun e t => bad e (s.1, t)) := ends_focus ..

@[simp] theorem ends_ite {a b : Act σ α} {c : Prop} [Decidable c] (s : σ) :
    Ends (if c then a else b) s good bad ↔ (c → Ends a s good bad) ∧ (¬c → Ends b s good bad) := by
  split <;> simp_all

attribute [irreducible] Ends

end DeclBundle.Act
