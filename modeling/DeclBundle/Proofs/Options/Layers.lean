import DeclBundle.Options.Basic
import Mathlib.Data.List.Induction

namespace DeclBundle

theorem CompilerOptions.getElem?_foldl_insert (v : Value) (keys : List String) (options : CompilerOptions)
    (key : String) :
    (keys.foldl (fun o k => o.insert k v) options)[key]? =
      if key ∈ keys then some v else options[key]? := by
  induction keys generalizing options with
  | nil => simp
  | cons k keys ih =>
    rw [List.foldl_cons, ih, Std.ExtTreeMap.getElem?_insert]
    by_cases later : key ∈ keys
    · simp [later]
    · by_cases here : k = key
      · simp [here]
      · have other : ¬key = k := fun same => here same.symm
        simp [later, here, other]

theorem CompilerOptions.getElem?_protect (options : CompilerOptions) (key : String) :
    options.protect[key]? = if key ∈ protectedOptions then some (.boolean true) else options[key]? :=
  getElem?_foldl_insert ..

def lastSaid {α β : Type} (said : α → Option β) (items : List α) : Option β :=
  items.reverse.findSome? said

section LastSaid

variable {α β : Type} (said : α → Option β)

theorem lastSaid_singleton (item : α) : lastSaid said [item] = said item := by
  simp [lastSaid]

theorem lastSaid_append (first second : List α) :
    lastSaid said (first ++ second) = (lastSaid said second).or (lastSaid said first) := by
  simp only [lastSaid, List.reverse_append, List.findSome?_append]

theorem exists_of_lastSaid {said : α → Option β} {items : List α} {value : β}
    (last : lastSaid said items = some value) : ∃ item ∈ items, said item = some value := by
  obtain ⟨item, member, found⟩ := List.exists_of_findSome?_eq_some last
  exact ⟨item, List.mem_reverse.mp member, found⟩

end LastSaid

namespace ProjectOverrides

variable {α : Type}

/-- What is written over a layer says of a field what the field is, unless it says nothing of it. -/
def Settles (field : ProjectOverrides → Option α) : Prop :=
  ∀ lower upper : ProjectOverrides, field (lower.merge upper) = (field upper).or (field lower)

theorem settles_tsconfigPath : Settles tsconfigPath := fun _ _ => rfl

theorem settles_skipListedFiles : Settles skipListedFiles := fun _ _ => rfl

theorem settles_option (key : String) : Settles (·.options[key]?) := by
  intro lower upper
  simp only [merge, Std.ExtTreeMap.getElem?_union]

theorem options_empty (key : String) : ({} : ProjectOverrides).options[key]? = none :=
  Std.ExtTreeMap.getElem?_empty

theorem eq_of_fields {a b : ProjectOverrides} (path : a.tsconfigPath = b.tsconfigPath)
    (skip : a.skipListedFiles = b.skipListedFiles)
    (options : ∀ key : String, a.options[key]? = b.options[key]?) : a = b := by
  have options' : a.options = b.options := Std.ExtTreeMap.ext_getElem? options
  cases a
  cases b
  simp only at path skip options'
  rw [path, skip, options']

theorem merge_assoc (a b c : ProjectOverrides) : (a.merge b).merge c = a.merge (b.merge c) := by
  have fields {α : Type} {field : ProjectOverrides → Option α} (settles : Settles field) :
      field ((a.merge b).merge c) = field (a.merge (b.merge c)) := by
    rw [settles, settles, settles, settles, Option.or_assoc]
  exact eq_of_fields (fields settles_tsconfigPath) (fields settles_skipListedFiles) fun key =>
    fields (settles_option key)

theorem merge_empty (a : ProjectOverrides) : a.merge {} = a := by
  have fields {α : Type} {field : ProjectOverrides → Option α} (settles : Settles field)
      (silent : field {} = none) : field (a.merge {}) = field a := by
    rw [settles, silent, Option.none_or]
  exact eq_of_fields (fields settles_tsconfigPath rfl) (fields settles_skipListedFiles rfl) fun key =>
    fields (settles_option key) (options_empty key)

theorem empty_merge (a : ProjectOverrides) : merge {} a = a := by
  have fields {α : Type} {field : ProjectOverrides → Option α} (settles : Settles field)
      (silent : field {} = none) : field (merge {} a) = field a := by
    rw [settles, silent, Option.or_none]
  exact eq_of_fields (fields settles_tsconfigPath rfl) (fields settles_skipListedFiles rfl) fun key =>
    fields (settles_option key) (options_empty key)

def mergeAll (layers : List ProjectOverrides) : ProjectOverrides := layers.foldl merge {}

theorem Settles.mergeAll {field : ProjectOverrides → Option α} (settles : Settles field)
    (silent : field {} = none) (layers : List ProjectOverrides) :
    field (mergeAll layers) = lastSaid field layers := by
  induction layers using List.reverseRecOn with
  | nil => exact silent
  | append_singleton layers layer ih =>
    have last : ProjectOverrides.mergeAll (layers ++ [layer]) =
        (ProjectOverrides.mergeAll layers).merge layer := by
      rw [ProjectOverrides.mergeAll, List.foldl_append]
      rfl
    rw [last, settles, ih, lastSaid_append, lastSaid_singleton]

end ProjectOverrides

end DeclBundle
