import DeclBundle.Proofs.Act
import DeclBundle.World

namespace DeclBundle.World

variable {bad : Error → World → Prop}

@[simp] theorem ends_note {good : Unit → World → Prop} (level : Level) (area : Area) (text : String)
    (w : World) :
    Act.Ends (note level area text) w good bad ↔ good () (w.addNote ⟨level, area, text⟩) := by
  simp [note]

@[simp] theorem ends_noteAll {good : Unit → World → Prop} (records : List Record) (w : World) :
    Act.Ends (noteAll records) w good bad ↔ good () { w with log := w.log ++ records } := by
  simp [noteAll]

@[simp] theorem ends_readText {good : String → World → Prop} (task : FileTask) (p : Path) (w : World) :
    Act.Ends (readText task p) w good bad ↔
      (∀ text, w.tree.readText w.directory p = .ok text → good text w) ∧
        ∀ e, w.tree.readText w.directory p = .error e → bad (.file task e) w := by
  simp only [Act.Ends, readText]
  cases w.tree.readText w.directory p <;> simp

@[simp] theorem ends_writeText {good : Unit → World → Prop} (task : FileTask) (p : Path)
    (text : String) (w : World) :
    Act.Ends (writeText task p text) w good bad ↔
      (∀ tree, w.tree.write w.directory p text.toUTF8 = .ok tree → good () { w with tree := tree }) ∧
        ∀ e, w.tree.write w.directory p text.toUTF8 = .error e → bad (.file task e) w := by
  simp only [Act.Ends, writeText]
  cases w.tree.write w.directory p text.toUTF8 <;> simp

theorem ends_makePath {good : Unit → World → Prop} (task : FileTask) (p : Path) (w : World) :
    Act.Ends (makePath task p) w good bad ↔
      (∀ tree, w.tree.makePath w.directory p = (.ok (), tree) → good () { w with tree := tree }) ∧
        ∀ e tree, w.tree.makePath w.directory p = (.error e, tree) →
          bad (.file task e) { w with tree := tree } := by
  simp only [Act.Ends, makePath]
  obtain ⟨_ | _, tree⟩ := w.tree.makePath w.directory p <;> simp

/-- The same world, but for its log. -/
def Logs (w t : World) : Prop := ∃ log, t = { w with log := log }

theorem logs_refl (w : World) : w.Logs w := ⟨w.log, rfl⟩

theorem logs_addNote (r : Record) (w : World) : w.Logs (w.addNote r) := ⟨w.log ++ [r], rfl⟩

def Noted (w t : World) : Prop := t = w ∨ ∃ r, t = w.addNote r

theorem Logs.symm {w t : World} (logs : w.Logs t) : t.Logs w := by
  obtain ⟨log, rfl⟩ := logs
  exact ⟨w.log, rfl⟩

theorem Logs.trans {w t u : World} (first : w.Logs t) (second : t.Logs u) : w.Logs u := by
  obtain ⟨log, rfl⟩ := first
  obtain ⟨log', rfl⟩ := second
  exact ⟨log', rfl⟩

end DeclBundle.World
