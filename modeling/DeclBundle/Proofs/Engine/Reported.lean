import DeclBundle.Proofs.Diagnostic.RoundTrip
import DeclBundle.Proofs.Engine.Overlay
import DeclBundle.Proofs.Text.Utf8

namespace DeclBundle

namespace Staging

theorem mem_stagedPaths_iff {root overlay : Path} {sources : List (Path × SourceText)} {q p : Path} :
    (q, p) ∈ stagedPaths root overlay sources ↔
      ∃ text, (p, .inMemory text) ∈ sources ∧ q = overlay.join (relative root p) := by
  unfold stagedPaths
  rw [List.mem_filterMap]
  constructor
  · rintro ⟨⟨p', _ | text⟩, member, same⟩
    · cases same
    · cases same
      exact ⟨text, member, rfl⟩
  · rintro ⟨text, member, rfl⟩
    exact ⟨(p, .inMemory text), member, rfl⟩

end Staging

namespace CompilerEngine

open Staging

def Names (root q : Path) (name : String) : Prop :=
  name = q.text ∨ name = (root.relativeTo q).text ∨ q.same (root.resolve ⟨name⟩)

theorem names_iff {root q : Path} (rooted : root.isRooted) (normal : q.IsNormal) {name : String} :
    Names root q name ↔ q.same (root.resolve ⟨name⟩) := by
  constructor
  · rintro (rfl | rfl | leads)
    · apply normal.same_resolve
      rw [Path.location_resolve, if_pos normal.rooted]
    · exact normal.same_resolve (Path.location_resolve_relativeTo_self rooted normal.rooted)
    · exact leads
  · exact fun leads => .inr (.inr leads)

theorem reportedFile_cases (root : Path) (staged : List (Path × Path)) (name : String) :
    (∃ q, (q, reportedFile root staged name) ∈ staged ∧ q.same (root.resolve ⟨name⟩)) ∨
      (∀ entry ∈ staged, ¬entry.1.same (root.resolve ⟨name⟩)) ∧
        reportedFile root staged name = root.resolve ⟨name⟩ := by
  unfold reportedFile
  dsimp only
  cases found : staged.reverse.find? fun entry => entry.1.same (root.resolve ⟨name⟩) with
  | none =>
    refine .inr ⟨fun entry member => ?_, rfl⟩
    exact List.find?_eq_none.mp found entry (List.mem_reverse.mpr member)
  | some entry =>
    obtain ⟨q, p⟩ := entry
    have leads := List.find?_some found
    exact .inl ⟨q, List.mem_reverse.mp (List.mem_of_find?_eq_some found), leads⟩

def stagedIn (e : CompilerEngine) (staging p : Path) : Path :=
  (staging.join "overlay").join (relative e.options.root p)

def tableIn (e : CompilerEngine) (staging : Path) : List (Path × Path) :=
  stagedPaths e.options.root (staging.join "overlay") e.sources.entries

/-- What the file of a diagnostic is, by the name that the compiler gives to it: the source that is staged under the
name, or what the name leads to if none is. -/
structure Means (e : CompilerEngine) (staging : Path) (name : String) (file : Path) : Prop where
  staged : ∀ p text, (p, .inMemory text) ∈ e.sources.entries →
    Names e.options.root (stagedIn e staging p) name → file = p
  other : (∀ p text, (p, .inMemory text) ∈ e.sources.entries →
    ¬Names e.options.root (stagedIn e staging p) name) → file = e.options.root.resolve ⟨name⟩

section Places

variable {e : CompilerEngine} {w : World} {staging : Path}

theorem Chosen.isNormal {root : Path} (chosen : Chosen root w staging) (rootNormal : root.IsNormal)
    (temporary : (w.directoryPath.join w.temporaryDirectory).IsNormal) : staging.IsNormal := by
  rcases chosen with ⟨n, name, rfl⟩ | ⟨n, name, rfl⟩
  · have packages : (root.join "node_modules").IsNormal := rootNormal.join_name (by decide)
    have absolute : w.directoryPath.join (root.join "node_modules") = root.join "node_modules" :=
      if_pos packages.rooted
    rw [absolute]
    exact packages.join_name name
  · exact temporary.join_name name

theorem normal_stagedIn (rootNormal : e.options.root.IsNormal) (stagingNormal : staging.IsNormal) {p : Path}
    (normal : p.IsNormal) : (stagedIn e staging p).IsNormal := by
  obtain ⟨relative, steps⟩ := relative_spec rootNormal normal
  exact ((stagingNormal.join_name isName_overlay).join relative steps).1

theorem means_reportedFile (rootNormal : e.options.root.IsNormal) (stagingNormal : staging.IsNormal)
    (normal : ∀ p ∈ e.sources.paths, p.IsNormal)
    (apart : (tableIn e staging).Pairwise fun a b => ¬a.1.same b.1) (name : String) :
    Means e staging name (reportedFile e.options.root (tableIn e staging) name) := by
  -- No two are staged in one place, so the one that was found first is the one that is meant.
  have symmetric : Std.Symm fun (a b : Path × Path) => ¬a.1.same b.1 :=
    ⟨fun a b apart same => apart (Path.same_symm same)⟩
  have listed_iff {q p : Path} : (q, p) ∈ tableIn e staging ↔
      ∃ text, (p, .inMemory text) ∈ e.sources.entries ∧ q = stagedIn e staging p := mem_stagedPaths_iff
  have leads {p : Path} {text : String} (member : (p, .inMemory text) ∈ e.sources.entries) :
      Names e.options.root (stagedIn e staging p) name ↔
        (stagedIn e staging p).same (e.options.root.resolve ⟨name⟩) :=
    names_iff rootNormal.rooted (normal_stagedIn rootNormal stagingNormal (normal p (List.mem_map_of_mem member)))
  rcases reportedFile_cases e.options.root (tableIn e staging) name with
    ⟨q, listed, there⟩ | ⟨none, elsewhere⟩
  · constructor
    · intro p text member names
      have one : q.same (stagedIn e staging p) :=
        Path.same_trans there (Path.same_symm ((leads member).mp names))
      by_contra different
      have distinct := apart.forall listed (listed_iff.mpr ⟨text, member, rfl⟩) fun same =>
        different (congrArg Prod.snd same)
      exact distinct one
    · intro unnamed
      obtain ⟨text, member, rfl⟩ := listed_iff.mp listed
      exact absurd ((leads member).mpr there) (unnamed _ text member)
  · constructor
    · intro p text member names
      have unlisted := none _ (listed_iff.mpr ⟨text, member, rfl⟩)
      exact absurd ((leads member).mp names) unlisted
    · exact fun _ => elsewhere

end Places

def Locates (e : CompilerEngine) (staging : Path) (stdout : List Char) (diagnostics : List Diagnostic) : Prop :=
  ∀ {name line column digits message : List Char} (category : Category), name ≠ [] →
    Diagnostic.IsNumber line → Diagnostic.IsNumber column → Diagnostic.IsNumber digits →
    (∀ mark, Diagnostic.IsMark mark → ¬mark <:+: message) →
    name ++ (Diagnostic.positionMark line column ++ Diagnostic.headlineText category digits message) ∈
      Text.lines stdout →
    ∃ file more, Means e staging (String.ofList name) file ∧
      Diagnostic.mk category (Diagnostic.numberOf digits) (String.ofList message ++ more)
        (some ⟨file, Diagnostic.numberOf line, Diagnostic.numberOf column⟩) ∈ diagnostics

theorem locates_diagnosed {e : CompilerEngine} {staging : Path} (rootNormal : e.options.root.IsNormal)
    (stagingNormal : staging.IsNormal) (normal : ∀ p ∈ e.sources.paths, p.IsNormal)
    (apart : (tableIn e staging).Pairwise fun a b => ¬a.1.same b.1) (o : Outcome) :
    Locates e staging (printed o.stdout) (diagnosed e staging o).1 := by
  intro name line column digits message category named row position code unmarked member
  obtain ⟨more, read⟩ := Diagnostic.exists_mem_parse_of_located
    (reportedFile e.options.root (tableIn e staging)) named row position category code
    (Diagnostic.lastMarker?_eq_none_iff.mpr unmarked) member
  exact ⟨_, more, means_reportedFile rootNormal stagingNormal normal apart _, read⟩

/-- What the compiler says of a file is told of the source that it means, if no two sources are staged in one place.
It is not told at all only if the compiler explains itself on its error channel alone, or leaves declarations behind
that are no text. -/
theorem locates_event (r : Request) {e : CompilerEngine} {w : World} (rootNormal : e.options.root.IsNormal)
    (temporary : (w.directoryPath.join w.temporaryDirectory).IsNormal)
    (normal : ∀ p ∈ e.sources.paths, p.IsNormal) {call : Call}
    (ran : (r.event (e, w)).after.2.calls = w.calls ++ [call]) :
    ∃ staging before, Chosen e.options.root w staging ∧ Starts e w.directory staging before call ∧
      ((r.event (e, w)).result.isOk ↔
        ¬(w.outcomeOf call).Explained ∧ ¬Garbled e staging (w.afterwards call)) ∧
      ((r.event (e, w)).result.isOk → (tableIn e staging).Pairwise (fun a b => ¬a.1.same b.1) →
        ∃ c, (r.event (e, w)).after.1.compilation = some c ∧
          (r = .diagnostics → (r.event (e, w)).result = .ok (.diagnosed c.diagnostics)) ∧
          Locates e staging (printed (w.outcomeOf call).stdout) c.diagnostics) := by
  obtain ⟨staging, before, result, chosen, starts, verdict, answers⟩ := closes_event r ran
  refine ⟨staging, before, chosen, starts, ?_⟩
  cases verdict with
  | @compiled c unexplained readable diagnostics =>
    obtain ⟨done, c', compiled, same⟩ := answers.done c rfl
    refine ⟨iff_of_true done ⟨unexplained, readable⟩, fun _ apart => ⟨c', compiled, ?_, ?_⟩⟩
    · intro asked
      rw [same]
      exact answers.diagnosed c rfl asked
    · rw [same, diagnostics]
      exact locates_diagnosed rootNormal (chosen.isNormal rootNormal temporary) normal apart _
  | explained explained =>
    exact ⟨iff_of_false answers.not_isOk fun fine => fine.1 explained, fun done => absurd done answers.not_isOk⟩
  | @garbled error unexplained garbled =>
    exact ⟨iff_of_false answers.not_isOk fun fine => fine.2 garbled, fun done => absurd done answers.not_isOk⟩

theorem printed_toUTF8 (s : String) : printed s.toUTF8 = s.toList := by
  rw [printed, Text.toList_toUTF8, Text.decodeLossy_utf8]

theorem Locates.exists_of_written {e : CompilerEngine} {staging : Path} {stdout : List Char}
    {diagnostics : List Diagnostic} (locates : Locates e staging stdout diagnostics) {d : Diagnostic}
    {p : Position} (position : d.position = some p) (legible : p.Legible) (code : d.code < Nat.pow 2 32)
    (unmarked : Diagnostic.lastMarker? d.message.toList = none) (line : d.text.toList ∈ Text.lines stdout) :
    ∃ file more, Means e staging p.file.text file ∧
      Diagnostic.mk d.category d.code (d.message ++ more) (some ⟨file, p.line, p.column⟩) ∈ diagnostics := by
  have written : d.text.toList = p.file.text.toList ++
      (Diagnostic.positionMark (toString p.line).toList (toString p.column).toList ++
        Diagnostic.headlineText d.category (toString d.code).toList d.message.toList) := by
    simp [Diagnostic.text, Diagnostic.positionText, position, Diagnostic.positionMark, Diagnostic.headlineText]
  rw [written] at line
  obtain ⟨file, more, means, read⟩ := locates d.category (by simpa using legible.named)
    (Diagnostic.isNumber_numeral p.line) (Diagnostic.isNumber_numeral p.column)
    (Diagnostic.isNumber_numeral d.code) (Diagnostic.lastMarker?_eq_none_iff.mp unmarked) line
  rw [String.ofList_toList] at means
  rw [Diagnostic.numberOf_numeral code, Diagnostic.numberOf_numeral legible.line_lt,
    Diagnostic.numberOf_numeral legible.column_lt, String.ofList_toList] at read
  exact ⟨file, more, means, read⟩

def twinReports : List Diagnostic :=
  [⟨.error, 2304, "Cannot find name 'size'.", some ⟨"/tmp/dtsemit-STAGE/overlay/__external__/b.ts", 3, 5⟩⟩,
    ⟨.error, 1005, "';' expected.", some ⟨"../tmp/dtsemit-STAGE/overlay/__external__/a.ts", 1, 1⟩⟩,
    ⟨.warning, 6133, "'size' is never used.", some ⟨"lib/../menu.ts", 2, 14⟩⟩]

def reportingWorld : World :=
  { pageWorld with
    compiler := fun _ _ _ => ⟨.empty, (Diagnostic.format twinReports).toUTF8, .empty, 2⟩ }

theorem lines_twinReports :
    ∀ d ∈ twinReports, d.text.toList ∈ Text.lines (Diagnostic.format twinReports).toList := by
  have each : Text.lines (Diagnostic.format twinReports).toList = twinReports.map fun d => d.text.toList := by
    rw [Diagnostic.toList_format]
    decide +kernel
  rw [each]
  exact fun d => List.mem_map_of_mem

theorem printed_reportingWorld (call : Call) :
    printed (reportingWorld.outcomeOf call).stdout = (Diagnostic.format twinReports).toList :=
  printed_toUTF8 _

theorem not_isFile_empty (here : Place) (p : Path) : ¬FileTree.empty.isFile here p := by
  rw [FileTree.isFile_iff]
  rintro ⟨place, entry, found, file⟩
  have stands := FileTree.entry?_of_find found file
  unfold FileTree.entry? at stands
  split at stands
  · cases stands
    cases file
  · cases stands

theorem readable_reportingWorld (e : CompilerEngine) (staging : Path) (call : Call) :
    ¬Garbled e staging (reportingWorld.afterwards call) := by
  rintro ⟨source, member, name, declared, file, -⟩
  exact not_isFile_empty _ _ file

theorem locates_event_twins :
    (∀ p ∈ (twinEngine "b.ts").sources.paths, p.IsNormal) ∧
      ∃ call diagnostics,
        (Request.diagnostics.event (twinEngine "b.ts", reportingWorld)).after.2.calls = [call] ∧
        (Request.diagnostics.event (twinEngine "b.ts", reportingWorld)).result = .ok (.diagnosed diagnostics) ∧
        (∃ more, ⟨.error, 2304, "Cannot find name 'size'." ++ more,
          some ⟨"/proj/__external__/b.ts", 3, 5⟩⟩ ∈ diagnostics) ∧
        (∃ more, ⟨.error, 1005, "';' expected." ++ more, some ⟨"/a.ts", 1, 1⟩⟩ ∈ diagnostics) ∧
        ∃ more, ⟨.warning, 6133, "'size' is never used." ++ more,
          some ⟨"/proj/menu.ts", 2, 14⟩⟩ ∈ diagnostics := by
  have known : "b.ts" ∈ ["a.ts", "b.ts"] := by decide
  have normal := (normal_twins known).1
  have rootNormal : (twinEngine "b.ts").options.root.IsNormal := ⟨by decide, by decide⟩
  have temporary : (reportingWorld.directoryPath.join reportingWorld.temporaryDirectory).IsNormal :=
    ⟨by decide +kernel, by decide +kernel⟩
  obtain ⟨bytes, ran⟩ := (arranged_twins known [] nofun reportingWorld.compiler).calls_event (r := .diagnostics) rfl
  obtain ⟨staging, before, -, starts, done, told⟩ := locates_event .diagnostics rootNormal temporary normal ran
  have overlay : staging.join "overlay" = "/tmp/dtsemit-STAGE/overlay" :=
    Eq.trans (join_of_arguments starts.arguments (by decide)) (by decide)
  have ok := done.mpr ⟨not_explained_of_silent rfl, readable_reportingWorld _ _ _⟩
  have apart : (tableIn (twinEngine "b.ts") staging).Pairwise fun a b => ¬a.1.same b.1 := by
    unfold tableIn
    rw [overlay]
    decide +kernel
  obtain ⟨c, -, answered, locates⟩ := told ok apart
  rw [printed_reportingWorld] at locates
  have place (p : Path) :
      stagedIn (twinEngine "b.ts") staging p = (Path.mk "/tmp/dtsemit-STAGE/overlay").join (relative "/proj" p) := by
    unfold stagedIn
    rw [overlay]
    rfl
  refine ⟨normal, _, c.diagnostics, ran, answered rfl, ?_, ?_, ?_⟩
  · obtain ⟨file, more, means, read⟩ := locates.exists_of_written rfl
      ⟨by decide, by decide, by decide, by decide⟩ (by decide) rfl (lines_twinReports _ List.mem_cons_self)
    obtain rfl := means.staged "/proj/__external__/b.ts" "1" List.mem_cons_self (.inl (by
      rw [place]
      decide +kernel))
    exact ⟨more, read⟩
  · obtain ⟨file, more, means, read⟩ := locates.exists_of_written rfl
      ⟨by decide, by decide, by decide, by decide⟩ (by decide) rfl
      (lines_twinReports _ (List.mem_cons_of_mem _ List.mem_cons_self))
    obtain rfl := means.staged "/a.ts" "2" (List.mem_cons_of_mem _ List.mem_cons_self) (.inr (.inl (by
      rw [place]
      decide +kernel)))
    exact ⟨more, read⟩
  · obtain ⟨file, more, means, read⟩ := locates.exists_of_written rfl
      ⟨by decide, by decide, by decide, by decide⟩ (by decide) rfl
      (lines_twinReports _ (List.mem_cons_of_mem _ (List.mem_cons_of_mem _ List.mem_cons_self)))
    have elsewhere : file = Path.resolve "/proj" "lib/../menu.ts" := by
      apply means.other
      intro p text member
      unfold Names
      rw [place]
      rcases List.mem_pair.mp member with same | same
      all_goals
        cases same
        decide +kernel
    have resolved : Path.resolve "/proj" "lib/../menu.ts" = "/proj/menu.ts" := by decide +kernel
    rw [elsewhere, resolved] at read
    exact ⟨more, read⟩

end CompilerEngine

end DeclBundle
