import DeclBundle.Files.Tree
import DeclBundle.Proofs.Path.Steps
import Mathlib.Data.List.Nodup

namespace DeclBundle.FileTree

structure WellFormed (t : FileTree) : Prop where
  once : (t.entries.map Prod.fst).Nodup
  named : ∀ place ∈ t.entries.map Prod.fst, ∀ name ∈ place, IsName name

theorem wellFormed_empty : empty.WellFormed := ⟨List.nodup_nil, nofun⟩

variable {t : FileTree} {place : Place}

theorem places_put (t : FileTree) (place : Place) (e : Entry) : (t.put place e).entries.map Prod.fst =
    if place ∈ t.entries.map Prod.fst then t.entries.map Prod.fst
    else t.entries.map Prod.fst ++ [place] := by
  have go (entries : List (Place × Entry)) : (put.go place e entries).map Prod.fst =
      if place ∈ entries.map Prod.fst then entries.map Prod.fst
      else entries.map Prod.fst ++ [place] := by
    induction entries with
    | nil => rfl
    | cons first rest ih =>
      obtain ⟨p, old⟩ := first
      unfold put.go
      by_cases here : p = place
      · simp [here]
      · rw [if_neg here, List.map_cons, ih, List.map_cons]
        split <;> simp_all [eq_comm]
  exact go t.entries

/-- What changes a tree puts entries or removes them, and either keeps it so. -/
theorem WellFormed.put (wellFormed : t.WellFormed) (named : ∀ name ∈ place, IsName name) (e : Entry) :
    (t.put place e).WellFormed := by
  have places := places_put t place e
  split at places
  · exact ⟨places ▸ wellFormed.once, places ▸ wellFormed.named⟩
  · rename_i new
    constructor
    · rw [places]
      exact List.nodup_append'.mpr ⟨wellFormed.once, List.nodup_singleton place, by simpa using new⟩
    · intro other member
      rw [places] at member
      rcases List.mem_append.mp member with old | last
      · exact wellFormed.named other old
      · rwa [List.mem_singleton.mp last]

theorem WellFormed.remove (wellFormed : t.WellFormed) (top : Place) : (t.remove top).WellFormed := by
  have fewer : ((t.remove top).entries.map Prod.fst).Sublist (t.entries.map Prod.fst) :=
    List.filter_sublist.map Prod.fst
  exact ⟨wellFormed.once.sublist fewer, fun place member => wellFormed.named place (fewer.subset member)⟩

theorem mem_of_entry? (below : place ≠ []) {e : Entry} (found : t.entry? place = some e) :
    place ∈ t.entries.map Prod.fst := by
  unfold entry? at found
  rw [if_neg below] at found
  obtain ⟨before, after, parts, -⟩ := List.lookup_eq_some_iff.mp found
  simp [parts]

theorem named_iff {other : Place} {name : String} :
    (if other.dropLast = place then other.getLast? else none) = some name ↔ other = place ++ [name] := by
  constructor
  · intro last
    split at last
    · rename_i above
      rw [← above]
      exact (List.dropLast_append_getLast? name last).symm
    · cases last
  · intro same
    simp [same]

theorem mem_names {name : String} : name ∈ t.names place ↔ place ++ [name] ∈ t.entries.map Prod.fst := by
  unfold names
  simp only [List.mem_mergeSort, List.mem_filterMap, named_iff, List.mem_map]

theorem WellFormed.isName (wellFormed : t.WellFormed) {name : String} (member : name ∈ t.names place) :
    IsName name :=
  wellFormed.named _ (mem_names.mp member) name (by simp)

theorem WellFormed.nodup_names (wellFormed : t.WellFormed) (place : Place) : (t.names place).Nodup := by
  unfold names
  rw [(List.mergeSort_perm _ _).nodup_iff]
  refine List.pairwise_filterMap.mpr ((List.pairwise_map.mp wellFormed.once).imp ?_)
  intro first second apart name found name' found' same
  exact apart (by rw [named_iff.mp found, named_iff.mp found', same])

theorem WellFormed.pairwise_names (wellFormed : t.WellFormed) (place : Place) :
    (t.names place).Pairwise (· < ·) := by
  have ordered : (t.names place).Pairwise fun a b => !decide (b < a) := by
    apply List.pairwise_mergeSort
    · intro a b c first second
      simp only [Bool.not_eq_true', decide_eq_false_iff_not, String.not_lt] at first second ⊢
      exact String.le_trans first second
    · intro a b
      simp only [Bool.or_eq_true, Bool.not_eq_true', decide_eq_false_iff_not, String.not_lt]
      exact String.le_total a b
  refine (ordered.and (wellFormed.nodup_names place)).imp ?_
  intro a b both
  obtain ⟨least, apart⟩ := both
  simp only [Bool.not_eq_true', decide_eq_false_iff_not, String.not_lt] at least
  exact String.not_le.mp fun most => apart (String.le_antisymm least most)

end DeclBundle.FileTree
