import DeclBundle.Module.Sources
import DeclBundle.Proofs.Path.Steps

namespace DeclBundle

namespace SourceId

theorem ofIndex_eq_ok_iff {i : Nat} {id : SourceId} : ofIndex i = .ok id ↔ i < limit ∧ id = ⟨i⟩ := by
  unfold ofIndex
  split
  · rename_i below
    simp [below, eq_comm]
  · rename_i beyond
    simp [beyond]

theorem ofIndex_eq_error_iff {i : Nat} {e : Error} : ofIndex i = .error e ↔ limit ≤ i ∧ e = .outOfRange := by
  unfold ofIndex
  split
  · rename_i below
    simp [Nat.not_le.mpr below]
  · rename_i beyond
    simp [Nat.not_lt.mp beyond, eq_comm]

end SourceId

namespace Sources

variable {α : Type}

theorem index?_eq_some {s : Sources α} {p : Path} {i : Nat} (known : s.index? p = some i) :
    ∃ q x, s.entries[i]? = some (q, x) ∧ q.same p := by
  obtain ⟨bound, same, -⟩ := List.findIdx?_eq_some_iff_getElem.mp known
  exact ⟨_, _, List.getElem?_eq_getElem bound, same⟩

theorem getElem?_insert (s : Sources α) (p : Path) (x : α) :
    ∃ q, q.same p ∧ (s.insert p x).1.entries[(s.insert p x).2]? = some (q, x) := by
  unfold insert
  cases known : s.index? p with
  | none => exact ⟨p, p.same_refl, by simp⟩
  | some i =>
    obtain ⟨q, y, entry, same⟩ := index?_eq_some known
    exact ⟨q, same, by simp [entry]⟩

theorem getElem?_insert_of_ne (s : Sources α) (p : Path) (x : α) {j : Nat} {entry : Path × α}
    (known : s.entries[j]? = some entry) (other : j ≠ (s.insert p x).2) :
    (s.insert p x).1.entries[j]? = some entry := by
  unfold insert at other ⊢
  cases found : s.index? p with
  | none =>
    have bound := (List.getElem?_eq_some_iff.mp known).1
    simp [List.getElem?_append_left bound, known]
  | some i =>
    have different : i ≠ j := by
      rintro rfl
      simp [found] at other
    simp [List.getElem?_modify_ne _ _ different, known]

theorem index_ne_of_not_same {s : Sources α} {p q : Path} {x y : α} {j : Nat}
    (known : s.entries[j]? = some (q, y)) (apart : ¬q.same p) : j ≠ (s.insert p x).2 := by
  unfold insert
  cases found : s.index? p with
  | none => exact Nat.ne_of_lt (List.getElem?_eq_some_iff.mp known).1
  | some i =>
    obtain ⟨q', y', entry, same⟩ := index?_eq_some found
    rintro rfl
    rw [known] at entry
    cases entry
    exact apart same

theorem index?_eq_none_iff {s : Sources α} {p : Path} :
    s.index? p = none ↔ ∀ q ∈ s.paths, ¬q.same p := by
  simp [index?, paths, List.findIdx?_eq_none_iff]

theorem insert_of_unknown {s : Sources α} {p : Path} (unknown : s.index? p = none) (x : α) :
    s.insert p x = (⟨s.entries ++ [(p, x)]⟩, s.entries.length) := by
  simp only [insert, unknown]

theorem paths_insert_of_known {s : Sources α} {p : Path} {i : Nat} (known : s.index? p = some i)
    (x : α) : (s.insert p x).1.paths = s.paths ∧ (s.insert p x).2 = i := by
  simp only [insert, known, paths, and_true]
  apply List.ext_getElem?
  intro j
  by_cases same : i = j
  · subst same
    cases entry : s.entries[i]? <;> simp [entry]
  · simp [List.getElem?_modify_ne _ _ same]

theorem paths_insert_eq (s : Sources α) (p : Path) (x : α) :
    (s.insert p x).1.paths = if s.paths.any (·.same p) then s.paths else s.paths ++ [p] := by
  cases known : s.index? p with
  | none =>
    have unknown := index?_eq_none_iff.mp known
    rw [if_neg (by simpa using unknown), insert_of_unknown known]
    simp [paths]
  | some i =>
    obtain ⟨q, y, entry, same⟩ := index?_eq_some known
    have member : q ∈ s.paths := List.mem_map.mpr ⟨_, List.mem_of_getElem? entry, rfl⟩
    rw [if_pos (List.any_eq_true.mpr ⟨q, member, same⟩)]
    exact (paths_insert_of_known known x).1

theorem paths_insert (s : Sources α) (p : Path) (x : α) :
    (s.insert p x).1.paths = s.paths ∨ (s.insert p x).1.paths = s.paths ++ [p] := by
  rw [paths_insert_eq]
  split
  · exact .inl rfl
  · exact .inr rfl

theorem forall_paths_insert {s : Sources α} {P : Path → Prop} (all : ∀ q ∈ s.paths, P q) {p : Path}
    (new : P p) (x : α) : ∀ q ∈ (s.insert p x).1.paths, P q := by
  intro q member
  rcases s.paths_insert p x with kept | more
  · exact all q (kept ▸ member)
  · rw [more] at member
    rcases List.mem_append.mp member with old | last
    · exact all q old
    · exact List.mem_singleton.mp last ▸ new

theorem paths_insert_cases (s : Sources α) (p : Path) (x : α) :
    (s.insert p x).1.paths = s.paths ∧ (∃ q, s.paths[(s.insert p x).2]? = some q ∧ q.same p) ∨
      (s.insert p x).1.paths = s.paths ++ [p] ∧ (s.insert p x).2 = s.paths.length ∧
        ∀ q ∈ s.paths, ¬q.same p := by
  cases known : s.index? p with
  | none =>
    rw [insert_of_unknown known]
    exact .inr ⟨by simp [paths], by simp [paths], index?_eq_none_iff.mp known⟩
  | some i =>
    obtain ⟨same, place⟩ := paths_insert_of_known known x
    obtain ⟨q, y, entry, named⟩ := index?_eq_some known
    exact .inl ⟨same, q, by simp [place, paths, entry], named⟩

theorem index_insert_le (s : Sources α) (p : Path) (x : α) : (s.insert p x).2 ≤ s.paths.length := by
  rcases s.paths_insert_cases p x with ⟨-, q, there, -⟩ | ⟨-, last, -⟩
  · exact Nat.le_of_lt (List.getElem?_eq_some_iff.mp there).1
  · exact Nat.le_of_eq last

theorem index_insert_lt (s : Sources α) (p : Path) (x : α) :
    (s.insert p x).2 < (s.insert p x).1.paths.length := by
  obtain ⟨q, -, entry⟩ := s.getElem?_insert p x
  simpa [paths] using (List.getElem?_eq_some_iff.mp entry).1

theorem length_paths_insert (s : Sources α) (p : Path) (x : α) :
    s.paths.length ≤ (s.insert p x).1.paths.length ∧
      (s.insert p x).1.paths.length ≤ s.paths.length + 1 := by
  rcases s.paths_insert p x with kept | more
  · simp [kept]
  · simp [more]

theorem getElem?_paths_insert {s : Sources α} {i : Nat} {q : Path} (there : s.paths[i]? = some q)
    (p : Path) (x : α) : (s.insert p x).1.paths[i]? = some q := by
  rcases s.paths_insert p x with kept | more
  · rwa [kept]
  · rw [more, List.getElem?_append_left (List.getElem?_eq_some_iff.mp there).1, there]

theorem lt_or_eq_of_insert {s : Sources α} {p : Path} {x : α} {i : Nat}
    (bound : i < (s.insert p x).1.paths.length) :
    i < s.paths.length ∨ i = (s.insert p x).2 := by
  rcases s.paths_insert_cases p x with ⟨kept, -⟩ | ⟨more, last, -⟩
  · exact .inl (kept ▸ bound)
  · rw [more, List.length_append, List.length_singleton] at bound
    omega

theorem getElem?_of_paths_insert {s : Sources α} {p q : Path} {x : α} {i : Nat}
    (there : (s.insert p x).1.paths[i]? = some q) (other : i ≠ (s.insert p x).2) :
    s.paths[i]? = some q := by
  have old := (lt_or_eq_of_insert (List.getElem?_eq_some_iff.mp there).1).resolve_right other
  rw [← there, List.getElem?_eq_getElem old, getElem?_paths_insert (List.getElem?_eq_getElem old)]

def Knows (s : Sources α) (id : SourceId) (p : Path) : Prop :=
  ∃ q, s.paths[id.index]? = some q ∧ q.same p

theorem knows_insert {s : Sources α} {p : Path} {x : α} {id : SourceId}
    (number : SourceId.ofIndex (s.insert p x).2 = .ok id) : (s.insert p x).1.Knows id p := by
  obtain ⟨-, rfl⟩ := SourceId.ofIndex_eq_ok_iff.mp number
  obtain ⟨q, same, entry⟩ := s.getElem?_insert p x
  exact ⟨q, by simp [paths, entry], same⟩

theorem Knows.insert {s : Sources α} {id : SourceId} {q : Path} (known : s.Knows id q) (p : Path)
    (x : α) : (s.insert p x).1.Knows id q := by
  obtain ⟨q', entry, same⟩ := known
  exact ⟨q', getElem?_paths_insert entry p x, same⟩

end Sources

end DeclBundle
