import DeclBundle.Engine.Basic
import DeclBundle.Proofs.Module.Admission
import DeclBundle.Proofs.Module.Sources
import DeclBundle.Proofs.World
import Mathlib.Data.List.Sublists

namespace DeclBundle

/-- What registrations and questions keep of an engine, and what they say of its sources. Nothing of it is
lost when one of them fails. -/
structure Engine.Tracks {ε : Type} (engine : Engine ε) (Inv : ε → Prop)
    (Known : ε → SourceId → Path → Prop) : Prop where
  create (options : ProjectOptions) (w : World) :
    Act.Ends (engine.create options) w (fun e _ => Inv e) fun _ _ => True
  addText {e : ε} (inv : Inv e) {p : Path} (module : p.IsModule) (text : String) (w : World) :
    Act.Ends (engine.addText p text) (e, w)
      (fun id t => Inv t.1 ∧ Known t.1 id p ∧ ∀ i q, Known e i q → Known t.1 i q)
      fun _ t => Inv t.1 ∧ ∀ i q, Known e i q → Known t.1 i q
  addFile {e : ε} (inv : Inv e) {p : Path} (module : p.IsModule) (w : World) :
    Act.Ends (engine.addFile p) (e, w)
      (fun id t => Inv t.1 ∧ Known t.1 id p ∧ ∀ i q, Known e i q → Known t.1 i q)
      fun _ t => Inv t.1 ∧ ∀ i q, Known e i q → Known t.1 i q
  diagnostics {e : ε} (inv : Inv e) (w : World) :
    Act.Ends engine.diagnostics (e, w)
      (fun _ t => Inv t.1 ∧ ∀ i q, Known e i q → Known t.1 i q)
      fun _ t => Inv t.1 ∧ ∀ i q, Known e i q → Known t.1 i q

/-- Files that stand next to a module under the names of its declarations and of their map, each at most
once. -/
def Path.Declares (p : Path) (files : List EmittedFile) : Prop :=
  ∀ d n, p.StandsAt d n → ∃ names,
    names.Sublist [declaredName n, declaredName n ++ ".map"] ∧
      List.Forall₂ (fun (file : EmittedFile) m => file.path.StandsAt d m) files names

def Path.besideName (n : String) (map : Bool) : String :=
  Path.declaredName n ++ if map then ".map" else ""

theorem Path.Declares.cases {p : Path} {files : List EmittedFile} (declares : p.Declares files)
    {d : Location} {n : String} (stands : p.StandsAt d n) :
    files = [] ∨ (∃ f kind, files = [f] ∧ f.path.StandsAt d (besideName n kind)) ∨
      ∃ f g, files = [f, g] ∧ f.path.StandsAt d (besideName n false) ∧
        g.path.StandsAt d (besideName n true) := by
  have plain : besideName n false = declaredName n := by simp [besideName]
  have map : besideName n true = declaredName n ++ ".map" := rfl
  rw [plain, map]
  obtain ⟨names, inside, each⟩ := declares d n stands
  rcases List.sublist_cons_iff.mp inside with rest | ⟨tail, rfl, rest⟩
  · rcases List.sublist_cons_iff.mp rest with none | ⟨tail, rfl, none⟩
    · obtain rfl := List.sublist_nil.mp none
      exact .inl (List.forall₂_nil_right_iff.mp each)
    · obtain rfl := List.sublist_nil.mp none
      obtain ⟨f, _, stands', none, rfl⟩ := List.forall₂_cons_right_iff.mp each
      obtain rfl := List.forall₂_nil_right_iff.mp none
      exact .inr (.inl ⟨f, true, rfl, map ▸ stands'⟩)
  · obtain ⟨f, _, standsF, more, rfl⟩ := List.forall₂_cons_right_iff.mp each
    rcases List.sublist_cons_iff.mp rest with none | ⟨tail, rfl, none⟩
    · obtain rfl := List.sublist_nil.mp none
      obtain rfl := List.forall₂_nil_right_iff.mp more
      exact .inr (.inl ⟨f, false, rfl, plain ▸ standsF⟩)
    · obtain rfl := List.sublist_nil.mp none
      obtain ⟨g, _, standsG, none, rfl⟩ := List.forall₂_cons_right_iff.mp more
      obtain rfl := List.forall₂_nil_right_iff.mp none
      exact .inr (.inr ⟨f, g, rfl, standsF, standsG⟩)

def Engine.Declaring {ε : Type} (engine : Engine ε) : Prop :=
  ∃ Inv Known, engine.Tracks Inv Known ∧ ∀ e w, Inv e → Act.Ends engine.emit (e, w)
    (fun _ t => ∀ id p, p.IsModule → Known e id p → ∀ files, engine.emitted t.1 id = .ok files →
      p.Declares files)
    fun _ _ => True

end DeclBundle
