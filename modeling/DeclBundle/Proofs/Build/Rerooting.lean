import DeclBundle.Build.Target
import DeclBundle.Proofs.Component.Specifier
import DeclBundle.Proofs.Path.FileName

namespace DeclBundle

namespace Component

theorem cleanName?_eq_some {name cleaned : List Char} (found : cleanName? name = some cleaned) :
    ∃ stem ending, (ending = ".d.ts" ∨ ending = ".d.ts.map") ∧
      name = stem ++ ".vue".toList ++ ending.toList ∧ cleaned = stem ++ ending.toList := by
  obtain ⟨ending, member, found⟩ := List.exists_of_findSome?_eq_some found
  obtain ⟨stem, dropped, rfl⟩ := Option.map_eq_some_iff.mp found
  have whole := Text.dropTail?_eq_some.mp dropped
  exact ⟨stem, ending, by simpa using member, by rw [whole, List.append_assoc], rfl⟩

theorem isName_of_cleanName? {name : String} (named : IsName name) {cleaned : List Char}
    (found : cleanName? name.toList = some cleaned) : IsName (String.ofList cleaned) := by
  obtain ⟨stem, ending, suffixes, whole, rfl⟩ := cleanName?_eq_some found
  have clean : '/' ∉ stem := fun member => named.noSlash (by simp [whole, member])
  have ending' : '/' ∉ ending.toList ∧ 2 < ending.length := by
    rcases suffixes with rfl | rfl <;> decide
  have parts : String.ofList (stem ++ ending.toList) = String.ofList stem ++ ending := by
    simp
  rw [parts]
  exact isName_append_ending (by simpa using clean) ending'.1 ending'.2

theorem location_cleanFileName {p : Path} {n : String} (file : p.fileName? = some n) :
    ∃ d m, p.parent? = some d ∧ p.location = d.location.descend [n] ∧ IsName m ∧
      (cleanFileName p).location = d.location.descend [m] ∧
      m = ((cleanName? n.toList).map String.ofList).getD n := by
  have named := Path.isName_of_fileName? file
  unfold cleanFileName
  simp only [file, Option.bind_some]
  cases found : cleanName? n.toList with
  | none =>
    obtain ⟨d, parent, -, place⟩ := Path.parent?_of_fileName? file
    exact ⟨d, n, parent, place, named, place, rfl⟩
  | some cleaned =>
    have name := isName_of_cleanName? named found
    obtain ⟨d, parent, place, moved⟩ := Path.location_withFileName file name
    exact ⟨d, _, parent, place, name, moved, rfl⟩

theorem cleanSpecifiers_quoted {quote : Char} (quoting : isQuote quote) {stem : List Char}
    (nonempty : stem ≠ []) (unquoted : quote ∉ stem ++ ".vue".toList)
    (line : '\n' ∉ stem ++ ".vue".toList) :
    cleanSpecifiers (quote :: (stem ++ ".vue".toList) ++ [quote]) = quote :: stem ++ [quote] := by
  have read : specifier? quote (stem ++ ".vue".toList ++ [quote]) = some (stem, []) :=
    specifier?_eq_some_iff.mpr ⟨rfl, nonempty, unquoted, line⟩
  rw [List.cons_append, cleanSpecifiers_of_some quoting read, cleanSpecifiers]

end Component

namespace Path

theorem resolve_eq_iff {a b p q : Path} :
    a.resolve p = b.resolve q ↔ (a.resolve p).location = (b.resolve q).location := by
  unfold resolve
  rw [normalize_eq_iff, location_normalize, location_normalize]

theorem exists_location_of_join {base above : Path} {n : String} (name : IsName n)
    (below : base.Inside (above.join ⟨n⟩)) : ∃ ns, above.location = base.location.descend ns := by
  obtain ⟨names, some, down⟩ := below
  rcases List.eq_nil_or_concat' names with rfl | ⟨ns, m, rfl⟩
  · exact absurd rfl some
  · rw [location_join_name above name, ← Location.descend_descend] at down
    exact ⟨ns, (Location.descend_one_inj down).1⟩

theorem inside_of_isPrefix {base p q : Path} {ns ms : List String} {n : String} (above : ns <+: ms)
    (place : p.location = base.location.descend ns) (place' : q.location = base.location.descend (ms ++ [n])) :
    p.Inside q := by
  obtain ⟨rest, rfl⟩ := above
  refine ⟨rest ++ [n], by simp, ?_⟩
  rw [place', place, Location.descend_descend, List.append_assoc]

end Path

namespace Rerooting

variable {root directory emitted : Path}

theorem location_target_plain (top : root.isRooted) (out : directory.isRooted)
    (file : emitted.isRooted) :
    ((⟨root, false⟩ : Rerooting).target directory emitted).location =
      { directory.location with
        names := Location.seenFrom directory.location.names root.location.names
          emitted.location.names } :=
  Path.location_resolve_relativeTo out top file

def writtenName (clean : Bool) (n : String) : String :=
  if clean then ((Component.cleanName? n.toList).map String.ofList).getD n else n

theorem location_target_inside (directory : Path) (clean : Bool) {ns : List String} {n : String}
    (name : emitted.fileName? = some n)
    (place : emitted.location = root.location.descend (ns ++ [n])) :
    ((⟨root, clean⟩ : Rerooting).target directory emitted).location =
      directory.location.descend (ns ++ [writtenName clean n]) := by
  cases clean with
  | false => exact Path.location_resolve_inside directory place
  | true =>
    obtain ⟨d, m, -, above, -, moved, renamed⟩ := Component.location_cleanFileName name
    have up : d.location = root.location.descend ns := by
      rw [place, ← Location.descend_descend] at above
      exact (Location.descend_one_inj above).1.symm
    have cleaned : (Component.cleanFileName emitted).location =
        root.location.descend (ns ++ [m]) := by
      rw [moved, up, Location.descend_descend]
    simpa [target, writtenName, ← renamed] using Path.location_resolve_inside directory cleaned

theorem steps_target (r : Rerooting) (directory emitted : Path) :
    (r.target directory emitted).steps = (r.target directory emitted).location.steps :=
  Path.steps_resolve ..

theorem target_eq_iff {r s : Rerooting} {a b p q : Path} :
    r.target a p = s.target b q ↔ (r.target a p).location = (s.target b q).location :=
  Path.resolve_eq_iff

theorem parents_of_target (directory : Path) (clean : Bool) (file : emitted.IsNormal)
    (inside : root.Inside emitted) :
    ∃ here there ns n, emitted.parent? = some here ∧
      ((⟨root, clean⟩ : Rerooting).target directory emitted).parent? = some there ∧
      emitted.location = root.location.descend (ns ++ [n]) ∧
      here.location = root.location.descend ns ∧
      there.location = directory.location.descend ns := by
  obtain ⟨names, some, place⟩ := inside
  rcases List.eq_nil_or_concat names with rfl | ⟨ns, n, rfl⟩
  · exact absurd rfl some
  rw [List.concat_eq_append] at place
  obtain ⟨name, here, parent, up⟩ := Path.parent?_of_location file.steps_eq_location place
  have moved := location_target_inside directory clean name place
  obtain ⟨-, there, parent', up'⟩ := Path.parent?_of_location (steps_target ..) moved
  exact ⟨here, there, ns, n, parent, parent', place, up, up'⟩

theorem rooted_of_location {p base : Path} {ns : List String} (rooted : base.isRooted)
    (place : p.location = base.location.descend ns) : p.isRooted := by
  rw [← Path.rooted_location, place]
  exact (Path.rooted_location base).trans rooted

theorem resolve_import_plain (top : root.isRooted) (out : directory.isRooted)
    (file : emitted.IsNormal) (inside : root.Inside emitted) {imported : Path}
    (normal : imported.IsNormal) :
    ∃ here there, emitted.parent? = some here ∧
      ((⟨root, false⟩ : Rerooting).target directory emitted).parent? = some there ∧
      there.resolve (here.relativeTo imported) =
        (⟨root, false⟩ : Rerooting).target directory imported := by
  obtain ⟨here, there, ns, n, parent, parent', -, up, up'⟩ :=
    parents_of_target directory false file inside
  refine ⟨here, there, parent, parent', Path.resolve_eq_iff.mpr ?_⟩
  have plain := location_target_plain top out normal.rooted
  rw [Path.location_resolve_relativeTo (rooted_of_location out up') (rooted_of_location top up)
    normal.rooted, up, up']
  refine Eq.trans ?_ plain.symm
  simp only [Location.descend_names, Location.seenFrom_append]
  rfl

theorem writtenName_component {x : String} :
    writtenName true (x ++ ".vue.d.ts") = x ++ ".d.ts" := by
  have mark : Text.dropTail? (".vue".toList ++ ".d.ts".toList) (x ++ ".vue.d.ts").toList =
      some x.toList := Text.dropTail?_eq_some.mpr (by simp)
  have found : Component.cleanName? (x ++ ".vue.d.ts").toList =
      some (x.toList ++ ".d.ts".toList) := by
    unfold Component.cleanName?
    rw [List.findSome?_cons, mark]
    rfl
  simp only [writtenName, if_true, found]
  simp

theorem resolve_import_component (top : root.isRooted) (out : directory.isRooted)
    (file : emitted.IsNormal) (inside : root.Inside emitted) {above : Path} {x : String}
    (nonempty : x ≠ "") (clean : '/' ∉ x.toList)
    (below : root.Inside (above.join ⟨x ++ ".vue"⟩))
    (apart : ¬(above.join ⟨x ++ ".vue"⟩).Inside emitted) :
    ∃ here there stem, emitted.parent? = some here ∧
      ((⟨root, true⟩ : Rerooting).target directory emitted).parent? = some there ∧
      (here.relativeTo (above.join ⟨x ++ ".vue"⟩)).text = stem ++ ".vue" ∧ stem ≠ "" ∧
      there.resolve ⟨stem ++ ".d.ts"⟩ =
        (⟨root, true⟩ : Rerooting).target directory (above.join ⟨x ++ ".vue.d.ts"⟩) := by
  have component : IsName (x ++ ".vue") :=
    isName_append_ending clean (by decide) (by decide)
  have declared : IsName (x ++ ".vue.d.ts") :=
    isName_append_ending clean (by decide) (by decide)
  have cleaned : IsName (x ++ ".d.ts") :=
    isName_append_ending clean (by decide) (by decide)
  obtain ⟨here, there, fs, f, parent, parent', place, up, up'⟩ :=
    parents_of_target directory true file inside
  obtain ⟨ds, level⟩ := Path.exists_location_of_join component below
  have hereRooted := rooted_of_location top up
  have thereRooted := rooted_of_location out up'
  have aboveRooted := rooted_of_location top level
  have target (n : String) (name : IsName n) : (above.join ⟨n⟩).location =
      root.location.descend (ds ++ [n]) := by
    rw [Path.location_join_name above name, level, Location.descend_descend]
  have names : (above.join ⟨x ++ ".vue"⟩).location.names =
      (root.location.names ++ ds) ++ [x ++ ".vue"] := by
    rw [target _ component, Location.descend_names, List.append_assoc]
  -- If the component were above the directory of the file, it would be above the file.
  have notAbove : ¬((root.location.names ++ ds) ++ [x ++ ".vue"]) <+: here.location.names := by
    rw [up, Location.descend_names, List.append_assoc, List.prefix_append_right_inj]
    exact fun above => apart (Path.inside_of_isPrefix above (target _ component) place)
  obtain ⟨cs, way, ending⟩ := Path.relativeTo_concat hereRooted
    (rooted_of_location top (target _ component)) names notAbove
  obtain ⟨ms, seen, landing⟩ := ending there thereRooted
  have shifted : ms = directory.location.names ++ ds := by
    rw [up, up', Location.descend_names, Location.descend_names, Location.seenFrom_append,
      List.append_assoc, Location.seenFrom_inside, ← List.append_assoc] at seen
    exact (List.append_inj' seen rfl).1.symm
  let stem := (Path.ofSteps (cs ++ [.name x])).text
  refine ⟨here, there, stem, parent, parent', ?_, ?_, ?_⟩
  · rw [way, Path.text_ofSteps_concat]
  · intro empty
    have longer := Path.text_ofSteps_concat cs "" x
    rw [String.empty_append] at longer
    have both := String.append_eq_empty_iff.mp (longer.symm.trans empty)
    exact nonempty both.2
  · have written : (⟨stem ++ ".d.ts"⟩ : Path) = Path.ofSteps (cs ++ [.name (x ++ ".d.ts")]) := by
      rw [← Path.text_ofSteps_concat]
    have moved := location_target_inside directory true (Path.fileName?_join_name above declared)
      (target _ declared)
    rw [writtenName_component] at moved
    have last := landing (x ++ ".d.ts") cleaned
    rw [written]
    apply Path.resolve_eq_iff.mpr
    refine last.trans (Eq.trans ?_ moved.symm)
    rw [shifted, up', List.append_assoc]
    rfl

/-- What a declaration imports is found from where the declaration is written. Without cleaning this holds
of every path, above the root too. With cleaning it holds of the components below the root, once the mark
is taken from the specifier as it is taken from quoted specifiers of the text. -/
theorem target_of_import (top : root.isRooted) (out : directory.isRooted)
    (file : emitted.IsNormal) (inside : root.Inside emitted) :
    (∀ imported : Path, imported.IsNormal → ∃ here there, emitted.parent? = some here ∧
      ((⟨root, false⟩ : Rerooting).target directory emitted).parent? = some there ∧
      there.resolve (here.relativeTo imported) =
        (⟨root, false⟩ : Rerooting).target directory imported) ∧
    (∀ (above : Path) (x : String), x ≠ "" → '/' ∉ x.toList →
      root.Inside (above.join ⟨x ++ ".vue"⟩) → ¬(above.join ⟨x ++ ".vue"⟩).Inside emitted →
      ∃ here there stem, emitted.parent? = some here ∧
        ((⟨root, true⟩ : Rerooting).target directory emitted).parent? = some there ∧
        (here.relativeTo (above.join ⟨x ++ ".vue"⟩)).text = stem ++ ".vue" ∧
        (∀ quote, Component.isQuote quote → quote ∉ (stem ++ ".vue").toList →
          '\n' ∉ (stem ++ ".vue").toList →
          Component.cleanSpecifiers (quote :: (stem ++ ".vue").toList ++ [quote]) =
            quote :: stem.toList ++ [quote]) ∧
        there.resolve ⟨stem ++ ".d.ts"⟩ =
          (⟨root, true⟩ : Rerooting).target directory (above.join ⟨x ++ ".vue.d.ts"⟩)) := by
  refine ⟨fun imported normal => resolve_import_plain top out file inside normal, ?_⟩
  intro above x nonempty clean below apart
  obtain ⟨here, there, stem, parent, parent', specifier, some, found⟩ :=
    resolve_import_component top out file inside nonempty clean below apart
  refine ⟨here, there, stem, parent, parent', specifier, ?_, found⟩
  intro quote quoting unquoted line
  rw [String.toList_append] at unquoted line ⊢
  have nonempty : stem.toList ≠ [] := fun h => some (by simpa using congrArg String.ofList h)
  exact Component.cleanSpecifiers_quoted quoting nonempty unquoted line

theorem target_of_import_page :
    (∃ here there, Path.parent? "/proj/src/views/Page.vue.d.ts" = some here ∧
      (target ⟨"/proj", false⟩ "/proj/dist" "/proj/src/views/Page.vue.d.ts").parent? = some there ∧
      there.resolve (here.relativeTo "/lib/shared.d.ts") =
        target ⟨"/proj", false⟩ "/proj/dist" "/lib/shared.d.ts") ∧
    (∃ here there stem, Path.parent? "/proj/src/views/Page.vue.d.ts" = some here ∧
      (target ⟨"/proj", true⟩ "/proj/dist" "/proj/src/views/Page.vue.d.ts").parent? = some there ∧
      (here.relativeTo "/proj/src/ui/Card.vue").text = stem ++ ".vue" ∧
      (∀ quote, Component.isQuote quote → quote ∉ (stem ++ ".vue").toList →
        '\n' ∉ (stem ++ ".vue").toList →
        Component.cleanSpecifiers (quote :: (stem ++ ".vue").toList ++ [quote]) =
          quote :: stem.toList ++ [quote]) ∧
      there.resolve ⟨stem ++ ".d.ts"⟩ =
        target ⟨"/proj", true⟩ "/proj/dist" "/proj/src/ui/Card.vue.d.ts") := by
  have holds := @target_of_import "/proj" "/proj/dist" "/proj/src/views/Page.vue.d.ts"
    (by decide) (by decide) ⟨by decide, by decide⟩
    ⟨["src", "views", "Page.vue.d.ts"], by decide, by decide⟩
  refine ⟨holds.1 "/lib/shared.d.ts" ⟨by decide, by decide⟩, ?_⟩
  refine holds.2 "/proj/src/ui" "Card" (by decide) (by decide)
    ⟨["src", "ui", "Card.vue"], by decide, by decide⟩ ?_
  rintro ⟨ns, -, place⟩
  have same : Path.location "/proj/src/views/Page.vue.d.ts" =
      (Location.mk true 0 ["proj", "src", "ui", "Card.vue"]).descend ns := place
  have names := congrArg Location.names same
  rw [show Path.location "/proj/src/views/Page.vue.d.ts" =
    ⟨true, 0, ["proj", "src", "views", "Page.vue.d.ts"]⟩ by decide] at names
  simp at names

end Rerooting

end DeclBundle
