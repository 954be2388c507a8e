import DeclBundle.Config.Layer
import DeclBundle.Proofs.Toml.Writing

namespace DeclBundle

namespace FilterPattern

inductive WrittenAs : FilterPattern → Value → Prop where
  | glob (s : String) : WrittenAs (.glob s) (.text s)
  | regex (s : String) (fields : List (String × Value)) (named : fields.lookup "regex" = some (.text s)) :
    WrittenAs (.regex s) (.table fields)

theorem ofValue?_eq_some_iff {p : FilterPattern} {v : Value} : ofValue? v = some p ↔ p.WrittenAs v := by
  constructor
  · intro read
    unfold ofValue? at read
    split at read
    · cases read
      exact .glob _
    · rename_i fields
      split at read
      · rename_i named
        cases read
        exact .regex _ fields named
      · cases read
    · cases read
  · intro written
    cases written with
    | glob s => rfl
    | regex s fields named => simp [ofValue?, named]

theorem writtenAs_toValue (p : FilterPattern) : p.WrittenAs p.toValue := by
  cases p with
  | glob s => exact .glob s
  | regex s => exact .regex s _ (by simp)

theorem fits_toValue (p : FilterPattern) : p.toValue.fits := by cases p <;> rfl

def write : FilterPattern → List Char
  | glob s => Toml.quote s
  | regex s => Toml.table "regex" (Toml.quote s)

theorem writes (depth : Nat) (p : FilterPattern) : Toml.Writes (depth + 1) p.write p.toValue := by
  cases p with
  | glob s => exact Toml.writes_quote _ s
  | regex s => exact Toml.writes_table (by decide) (Toml.writes_quote _ s)

end FilterPattern

namespace FilterSpec

inductive WrittenAs : FilterSpec → Value → Prop where
  | one {p : FilterPattern} {v : Value} (single : p.WrittenAs v) : WrittenAs (.one p) v
  | many {ps : List FilterPattern} {vs : List Value} (each : List.Forall₂ FilterPattern.WrittenAs ps vs) :
    WrittenAs (.many ps) (.list vs)

theorem mapM_ofValue?_eq_some_iff {vs : List Value} {ps : List FilterPattern} :
    vs.mapM FilterPattern.ofValue? = some ps ↔ List.Forall₂ FilterPattern.WrittenAs ps vs := by
  induction vs generalizing ps with
  | nil => simp [eq_comm]
  | cons v vs ih =>
    simp only [List.mapM_cons, Option.bind_eq_bind, Option.bind_eq_some_iff, FilterPattern.ofValue?_eq_some_iff, ih]
    constructor
    · rintro ⟨p, first, ps, others, same⟩
      cases same
      exact .cons first others
    · intro written
      cases written with
      | cons first others => exact ⟨_, first, _, others, rfl⟩

theorem ofValue_eq_ok_iff {spec : FilterSpec} {v : Value} : ofValue v = .ok spec ↔ spec.WrittenAs v := by
  constructor
  · intro read
    unfold ofValue at read
    split at read
    · split at read
      · rename_i items ps each
        cases read
        exact .many (mapM_ofValue?_eq_some_iff.mp each)
      · cases read
    · split at read
      · rename_i p single
        cases read
        exact .one (FilterPattern.ofValue?_eq_some_iff.mp single)
      · cases read
  · intro written
    cases written with
    | one single =>
      cases single with
      | glob s => rfl
      | regex s fields named => simp [ofValue, FilterPattern.ofValue?, named]
    | many each => simp [ofValue, mapM_ofValue?_eq_some_iff.mpr each]

theorem writtenAs_toValue (spec : FilterSpec) : spec.WrittenAs spec.toValue := by
  cases spec with
  | one p => exact .one p.writtenAs_toValue
  | many ps =>
    apply WrittenAs.many
    rw [List.forall₂_map_right_iff, List.forall₂_same]
    exact fun p _ => p.writtenAs_toValue

theorem fits_toValue (spec : FilterSpec) : spec.toValue.fits := by
  cases spec with
  | one p => exact p.fits_toValue
  | many ps =>
    have each : Value.allFit (ps.map FilterPattern.toValue) := by
      induction ps with
      | nil => rfl
      | cons p ps ih => simp [Value.allFit, p.fits_toValue, ih]
    exact each

def write : FilterSpec → List Char
  | one p => p.write
  | many ps => Toml.list (ps.map FilterPattern.write)

theorem writes (depth : Nat) (spec : FilterSpec) : Toml.Writes (depth + 2) spec.write spec.toValue := by
  cases spec with
  | one p => exact p.writes (depth + 1)
  | many ps =>
    apply Toml.writes_list
    rw [List.forall₂_map_left_iff, List.forall₂_map_right_iff, List.forall₂_same]
    exact fun p _ => p.writes depth

def line (key : String) (bare : Toml.IsBare key) (spec : FilterSpec) : Toml.Line where
  key := key
  text := spec.write
  value := spec.toValue
  bare := bare
  writes := spec.writes 78

end FilterSpec

namespace ConfigLayer

def filterLines (includes excludes : Option FilterSpec) : List Toml.Line :=
  (includes.map (FilterSpec.line "include" (by decide))).toList ++
    (excludes.map (FilterSpec.line "exclude" (by decide))).toList

def filterText (includes excludes : Option FilterSpec) : String :=
  String.ofList (Toml.document (filterLines includes excludes))

theorem filterOf_toValue (spec : FilterSpec) : filterOf spec.toValue = .ok spec := by
  simp [filterOf, spec.fits_toValue, FilterSpec.ofValue_eq_ok_iff.mpr spec.writtenAs_toValue]

theorem ofText_filterText (includes excludes : Option FilterSpec) :
    ofText (filterText includes excludes) = .ok { includes := includes, excludes := excludes } := by
  have distinct : ((filterLines includes excludes).map Toml.Line.key).Nodup := by
    cases includes <;> cases excludes <;> simp [filterLines, FilterSpec.line]
  -- The fields are sorted by their keys, so an exclusion is read first.
  let fields := (excludes.map fun spec => ("exclude", spec.toValue)).toList ++
    (includes.map fun spec => ("include", spec.toValue)).toList
  have table : Value.tableOf ((filterLines includes excludes).map fun l => (l.key, l.value)) = .table fields := by
    have first : "exclude" < "include" := by decide
    cases includes <;> cases excludes <;>
      simp [fields, filterLines, FilterSpec.line, Value.tableOf, Value.setField, first]
  have read : ofFields fields = .ok { includes := includes, excludes := excludes } := by
    cases includes <;> cases excludes <;>
      simp [fields, ofFields, Value.readFields, fieldNames, set, filterOf_toValue, Except.map]
  simp only [ofText, filterText, Toml.parse?_document distinct table, read]

example :
    (filterText (some (.many [.glob "**/*.ts"])) (some (.one (.regex "\\.d\\.ts$")))).toList =
      "include = [\"**/*.ts\"]\nexclude = \x7b regex = \"\\\\.d\\\\.ts$\" \x7d\n".toList := by decide

end ConfigLayer

namespace FilterSpec

/-- A filter is read from what it is written as, and from nothing that is written as another: a list stays a
list, however short, and a single pattern stays one. From the text of a configuration it is read as the filter
that it was, beside whatever other filter the text sets. -/
theorem read_written (spec : FilterSpec) :
    ofValue spec.toValue = .ok spec ∧
    (∀ v, ofValue v = .ok spec ↔ spec.WrittenAs v) ∧
    ∀ other : Option FilterSpec,
      ConfigLayer.ofText (ConfigLayer.filterText (some spec) other) =
        .ok { includes := some spec, excludes := other } ∧
      ConfigLayer.ofText (ConfigLayer.filterText other (some spec)) =
        .ok { includes := other, excludes := some spec } := by
  have known (v : Value) : ofValue v = .ok spec ↔ spec.WrittenAs v := ofValue_eq_ok_iff
  refine ⟨(known _).mpr spec.writtenAs_toValue, known, fun other => ⟨?_, ?_⟩⟩
  · exact ConfigLayer.ofText_filterText (some spec) other
  · exact ConfigLayer.ofText_filterText other (some spec)

end FilterSpec

end DeclBundle
