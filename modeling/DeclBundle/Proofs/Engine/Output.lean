import DeclBundle.Proofs.Engine.Launch
import Mathlib.Data.List.Pairwise

namespace DeclBundle

/-- Some files are written, below directories that are made where they are missing. Nothing else changes. -/
structure FileTree.Adds (here : Place) (t t' : FileTree) (files : List EmittedFile) : Prop where
  kept : t.Keeps [] t'
  written : ∀ file ∈ files, t'.readText here file.path = .ok file.text
  added : ∀ place e, t'.entry? place = some e → t.entry? place = some e ∨ e = .directory ∨
    ∃ file ∈ files, t'.find here file.path = .ok (place, e)

theorem FileTree.adds_extend {here : Place} {t : FileTree} {more : List (Place × Entry)}
    {files : List EmittedFile}
    (each : ∀ file ∈ files, ∃ place, (t.extend more).find here file.path =
      .ok (place, .file file.text.toUTF8 false))
    (all : ∀ entry ∈ more, entry.2 = .directory ∨
      ∃ file ∈ files, (t.extend more).find here file.path = .ok entry) :
    t.Adds here (t.extend more) files where
  kept := keeps_extend t more
  written file member := by
    obtain ⟨place, found⟩ := each file member
    exact readText_of_find found
  added place e there := by
    rcases mem_of_entry?_extend there with old | new
    · exact .inl old
    · exact .inr (all _ new)

namespace Staging

def declared? (p : Path) : Option String := p.fileName?.bind declarationName?

theorem declared?_of_same {p q : Path} (same : p.same q) : declared? p = declared? q := by
  unfold declared? Path.fileName?
  rw [Path.same_iff.mp same]

def namesBeside (base c : Path) (name : String) : List String :=
  (c.location.names.drop base.location.names.length).dropLast ++ [name]

/-- The path in the output that is as far down as the file is below the base, under another name. -/
def mirrored (output base c : Path) (name : String) : Path := output.enter (namesBeside base c name)

def filesFor (place : String → Path) : Option String → Option (String × Option String) →
    List EmittedFile
  | some name, some (declarations, map) =>
    ⟨place name, declarations⟩ :: (map.map fun text => ⟨place (name ++ ".map"), text⟩).toList
  | _, _ => []

def outputFiles (output base : Path) (written : Path → Option (String × Option String))
    (files : List Path) : List EmittedFile :=
  files.flatMap fun c => filesFor (mirrored output base c) (declared? c) (written c)

theorem mem_filesFor {place : String → Path} {name? : Option String}
    {what : Option (String × Option String)} {file : EmittedFile} :
    file ∈ filesFor place name? what ↔ ∃ name declarations map, name? = some name ∧
      what = some (declarations, map) ∧ (file = ⟨place name, declarations⟩ ∨
        ∃ text, map = some text ∧ file = ⟨place (name ++ ".map"), text⟩) := by
  unfold filesFor
  split
  · rename_i name declarations map
    simp only [List.mem_cons, Option.mem_toList, Option.map_eq_some_iff, Option.some.injEq,
      Prod.mk.injEq]
    constructor
    · rintro (rfl | ⟨text, rfl, rfl⟩)
      · exact ⟨name, declarations, map, rfl, ⟨rfl, rfl⟩, .inl rfl⟩
      · exact ⟨name, declarations, some text, rfl, ⟨rfl, rfl⟩, .inr ⟨text, rfl, rfl⟩⟩
    · rintro ⟨_, _, _, rfl, ⟨rfl, rfl⟩, rfl | ⟨text, rfl, rfl⟩⟩
      · exact .inl rfl
      · exact .inr ⟨text, rfl, rfl⟩
  · rename_i none
    simp only [List.not_mem_nil, false_iff]
    rintro ⟨name, declarations, map, rfl, rfl, -⟩
    exact none name declarations map rfl rfl

theorem isName_namesBeside (base c : Path) {name : String} (named : IsName name) :
    ∀ n ∈ namesBeside base c name, IsName n := by
  intro n member
  rcases List.mem_append.mp member with inner | last
  · exact c.location_sound.named n (List.drop_subset _ _ (List.dropLast_subset _ inner))
  · exact List.mem_singleton.mp last ▸ named

theorem mirrored_inj {output base c c' : Path} (tidy : output.Tidy) {m m' : String}
    (named : IsName m) (named' : IsName m')
    (same : mirrored output base c m = mirrored output base c' m') :
    m = m' ∧ mirrored output base c = mirrored output base c' := by
  have pieces := congrArg Path.pieces same
  unfold mirrored at pieces
  rw [Path.pieces_enter tidy (isName_namesBeside base c named),
    Path.pieces_enter tidy (isName_namesBeside base c' named'), List.append_cancel_left_eq] at pieces
  have names := List.map_injective_iff.mpr (fun _ _ => String.toList_inj.mp) pieces
  obtain ⟨front, last⟩ := List.append_inj' names rfl
  refine ⟨List.singleton_inj.mp last, funext fun k => ?_⟩
  unfold mirrored namesBeside
  rw [front]

end Staging

namespace CompilerEngine

open Staging

attribute [local irreducible] Path.join

def outputIn (staging : Path) : Path := staging.join "out"

def baseIn (e : CompilerEngine) (staging : Path) : Path := baseDirectory e.options.root (compiledIn e staging)

theorem isName_out : IsName "out" := by decide

variable {e : CompilerEngine} {here : Place} {staging : Path} {call : Call}

theorem tidy_outputIn (staging : Path) : (outputIn staging).Tidy :=
  Path.tidy_join_name _ isName_out

theorem Prepared.isRooted_compiled (prepared : Prepared e here staging call)
    (rootNormal : e.options.root.IsNormal) (normal : ∀ p ∈ e.sources.paths, p.IsNormal) :
    ∀ c ∈ compiledIn e staging, c.isRooted := by
  intro c member
  obtain ⟨⟨p, text⟩, source, rfl⟩ := List.mem_map.mp member
  have normal' := normal p (List.mem_map_of_mem source)
  cases text with
  | onDisk => exact normal'.rooted
  | inMemory text =>
    have relative := (relative_spec rootNormal normal').1
    have tidy : (staging.join "overlay").Tidy := Path.tidy_join_name _ isName_overlay
    unfold compiledPath
    rw [Path.isRooted_join relative tidy.text_ne,
      Path.isRooted_join (Path.relative_ofName isName_overlay) prepared.tidy.text_ne, prepared.rooted]

theorem Prepared.above (prepared : Prepared e here staging call)
    (rootNormal : e.options.root.IsNormal) (normal : ∀ p ∈ e.sources.paths, p.IsNormal) {c : Path}
    (member : c ∈ compiledIn e staging) {n : String} (file : c.fileName? = some n) :
    ∃ ns, c.location = (baseIn e staging).location.descend (ns ++ [n]) :=
  above_baseDirectory rootNormal.rooted (prepared.isRooted_compiled rootNormal normal) member file

theorem Prepared.withFileName_outputBeside (prepared : Prepared e here staging call)
    (rootNormal : e.options.root.IsNormal) (normal : ∀ p ∈ e.sources.paths, p.IsNormal) {c : Path}
    (member : c ∈ compiledIn e staging) {n : String} (file : c.fileName? = some n) (m : String) :
    (outputBeside e staging c).withFileName m = mirrored (outputIn staging) (baseIn e staging) c m := by
  obtain ⟨ns, place⟩ := prepared.above rootNormal normal member file
  have named : ∀ k ∈ ns ++ [n], IsName k := fun k inside =>
    c.location_sound.named k (by rw [place]; exact List.mem_append_right _ inside)
  have beside : namesBeside (baseIn e staging) c m = ns ++ [m] := by
    unfold namesBeside
    rw [place, Location.descend_names, List.drop_left, List.dropLast_concat]
  have enters : outputBeside e staging c = (outputIn staging).enter (ns ++ [n]) :=
    Path.join_relativeTo_inside (tidy_outputIn staging) (by simp) place
  rw [enters, Path.withFileName_enter (tidy_outputIn staging) named, mirrored, beside]

theorem isName_of_declared {c : Path} {d : String} (declared : declared? c = some d) :
    (∃ n, c.fileName? = some n) ∧ IsName d ∧ IsName (d ++ ".map") := by
  obtain ⟨n, file, named⟩ := Option.bind_eq_some_iff.mp declared
  exact ⟨⟨n, file⟩, isName_declarationName named (Path.isName_of_fileName? file)⟩

theorem place_mirrored {t : FileTree} {top place : Place} (tidy : staging.Tidy)
    (stands : t.find here staging = .ok (top, .directory)) (free : t.LinkFree top) {base c : Path}
    {m : String} (named : IsName m) (leads : t.LeadsTo here (mirrored (outputIn staging) base c m) place) :
    place = top ++ "out" :: namesBeside base c m := by
  have names := isName_namesBeside base c named
  have proper : ∀ s ∈ ("out" :: namesBeside base c m).map Step.name, s.Proper := by
    intro s member
    obtain ⟨n, inside, rfl⟩ := List.mem_map.mp member
    rcases List.mem_cons.mp inside with rfl | inside
    · exact isName_out
    · exact names n inside
  have steps := Path.filterMap_stepOf_texts proper
  rw [List.map_map] at steps
  have below : (mirrored (outputIn staging) base c m).pieces =
      staging.pieces ++ ("out" :: namesBeside base c m).map String.toList := by
    rw [mirrored, Path.pieces_enter (tidy_outputIn staging) names, outputIn,
      Path.pieces_join_name tidy isName_out, List.append_assoc]
    rfl
  have rooted : (mirrored (outputIn staging) base c m).isRooted = staging.isRooted := by
    rw [mirrored, Path.isRooted_enter names, outputIn,
      Path.isRooted_join (Path.relative_ofName isName_out) tidy.text_ne]
  exact (place_eq stands free leads (by simp) rooted below steps).1

variable {t : FileTree} {written : Path → Option (String × Option String)} {base : Path}
  {files : List Path}

theorem mem_outputFiles {output : Path} {file : EmittedFile} :
    file ∈ outputFiles output base written files ↔ ∃ c ∈ files, ∃ d declarations map,
      declared? c = some d ∧ written c = some (declarations, map) ∧
        (file = ⟨mirrored output base c d, declarations⟩ ∨
          ∃ text, map = some text ∧ file = ⟨mirrored output base c (d ++ ".map"), text⟩) := by
  simp only [outputFiles, List.mem_flatMap, mem_filesFor]

theorem path_of_mem_outputFiles {output : Path} {file : EmittedFile}
    (member : file ∈ outputFiles output base written files) :
    ∃ c m, IsName m ∧ file.path = mirrored output base c m := by
  obtain ⟨c, -, d, declarations, map, declared, -, rfl | ⟨text, -, rfl⟩⟩ := mem_outputFiles.mp member
  · exact ⟨c, d, (isName_of_declared declared).2.1, rfl⟩
  · exact ⟨c, d ++ ".map", (isName_of_declared declared).2.2, rfl⟩

theorem Prepared.exists_of_isFile (prepared : Prepared e here staging call)
    (adds : call.tree.Adds here t (outputFiles (outputIn staging) base written files)) {c : Path}
    {m : String} (named : IsName m) (file : t.isFile here (mirrored (outputIn staging) base c m)) :
    ∃ f ∈ outputFiles (outputIn staging) base written files,
      f.path = mirrored (outputIn staging) base c m := by
  obtain ⟨top, stage⟩ := prepared.stage
  have stands : t.find here staging = .ok (top, .directory) :=
    adds.kept.find stage.stands (by simp [Entry.isFile])
  obtain ⟨place, entry, found, isFile⟩ := FileTree.isFile_iff.mp file
  have free : t.LinkFree top := by
    intro names target some link
    rcases adds.added _ _ link with old | directory | ⟨f, member, found'⟩
    · exact stage.free names target some old
    · cases directory
    · -- A link is no text, but all that the compiler wrote is.
      have read := adds.written f member
      unfold FileTree.readText at read
      rw [found'] at read
      cases read
  have here' := place_mirrored prepared.tidy stands free named (FileTree.leadsTo_of_find found isFile)
  -- What is found was there before, is a directory, or was written; before, nothing was below the output.
  rcases adds.added _ _ (FileTree.entry?_of_find found isFile) with old | rfl | ⟨f, member, found'⟩
  · rw [here'] at old
    rw [stage.bare _ _ old] at isFile
    cases isFile
  · cases isFile
  · obtain ⟨c', m', named', path⟩ := path_of_mem_outputFiles member
    rw [path] at found'
    have there := place_mirrored prepared.tidy stands free named'
      (FileTree.leadsTo_of_find found' isFile)
    have same := (List.cons.inj (List.append_cancel_left (here'.symm.trans there))).2
    refine ⟨f, member, ?_⟩
    rw [path, mirrored, mirrored, same]

/-- No two files have their declarations in one place. -/
def Apart (output base : Path) (files : List Path) : Prop :=
  files.Pairwise fun c c' => ∀ d d', declared? c = some d → declared? c' = some d' →
    ¬(mirrored output base c d).same (mirrored output base c' d')

theorem apart_of_pairwise {output : Path}
    (distinct : (files.filterMap fun c => (declared? c).map (mirrored output base c)).Pairwise
      fun p q => ¬p.same q) : Apart output base files := by
  refine (List.pairwise_filterMap.mp distinct).imp fun apart d d' declared declared' => ?_
  exact apart _ (Option.map_eq_some_iff.mpr ⟨d, declared, rfl⟩) _ (Option.map_eq_some_iff.mpr ⟨d', declared', rfl⟩)

theorem Apart.eq_of_same {output : Path} (apart : Apart output base files) {c c' : Path}
    (member : c ∈ files) (member' : c' ∈ files) {d d' : String} (declared : declared? c = some d)
    (declared' : declared? c' = some d') (same : mirrored output base c d = mirrored output base c' d') :
    c = c' := by
  by_contra different
  have symmetric : Std.Symm fun c c' => ∀ d d', declared? c = some d → declared? c' = some d' →
      ¬(mirrored output base c d).same (mirrored output base c' d') :=
    ⟨fun c c' other d d' declared declared' same =>
      other d' d declared' declared (Path.same_iff.mpr (Path.same_iff.mp same).symm)⟩
  apply List.Pairwise.forall apart member member' different d d' declared declared'
  rw [same]
  exact Path.same_refl _

theorem Apart.declarations_iff {output : Path} (tidy : output.Tidy) (apart : Apart output base files)
    {c : Path} (member : c ∈ files) {d : String} (declared : declared? c = some d) (text : String) :
    (written c).map Prod.fst = some text ↔
      ∃ f ∈ outputFiles output base written files, f.path = mirrored output base c d ∧ f.text = text := by
  obtain ⟨⟨n, file⟩, named, -⟩ := isName_of_declared declared
  constructor
  · intro first
    obtain ⟨⟨declarations, map⟩, what, rfl⟩ := Option.map_eq_some_iff.mp first
    exact ⟨⟨mirrored output base c d, declarations⟩,
      mem_outputFiles.mpr ⟨c, member, d, declarations, map, declared, what, .inl rfl⟩, rfl, rfl⟩
  · rintro ⟨f, inside, path, rfl⟩
    obtain ⟨c', member', d', declarations, map, declared', what, rfl | ⟨text, -, rfl⟩⟩ :=
      mem_outputFiles.mp inside
    · rw [← apart.eq_of_same member' member declared' declared path, what]
      rfl
    · obtain ⟨same, -⟩ := mirrored_inj tidy (isName_of_declared declared').2.2 named path
      obtain ⟨n, -, declaration⟩ := Option.bind_eq_some_iff.mp declared
      exact absurd same.symm (declarationName_ne_map declaration d')

theorem Apart.map_iff {output : Path} (tidy : output.Tidy) (apart : Apart output base files)
    {c : Path} (member : c ∈ files) {d : String} (declared : declared? c = some d) (text : String) :
    (written c).bind Prod.snd = some text ↔
      ∃ f ∈ outputFiles output base written files,
        f.path = mirrored output base c (d ++ ".map") ∧ f.text = text := by
  obtain ⟨-, -, named⟩ := isName_of_declared declared
  constructor
  · intro second
    obtain ⟨⟨declarations, map⟩, what, given⟩ := Option.bind_eq_some_iff.mp second
    exact ⟨⟨mirrored output base c (d ++ ".map"), text⟩,
      mem_outputFiles.mpr ⟨c, member, d, declarations, map, declared, what, .inr ⟨text, given, rfl⟩⟩,
      rfl, rfl⟩
  · rintro ⟨f, inside, path, rfl⟩
    obtain ⟨c', member', d', declarations, map, declared', what, rfl | ⟨text, given, rfl⟩⟩ :=
      mem_outputFiles.mp inside
    · obtain ⟨same, -⟩ := mirrored_inj tidy (isName_of_declared declared').2.1 named path
      obtain ⟨n, -, declaration⟩ := Option.bind_eq_some_iff.mp declared'
      exact absurd same (declarationName_ne_map declaration d)
    · obtain ⟨same, places⟩ := mirrored_inj tidy (isName_of_declared declared').2.2 named path
      obtain rfl : d' = d := by simpa using same
      rw [← apart.eq_of_same member' member declared' declared (by rw [places]), what]
      exact given

theorem Prepared.textAt_mirrored (prepared : Prepared e here staging call)
    (adds : call.tree.Adds here t (outputFiles (outputIn staging) base written files)) {c : Path}
    {m : String} (named : IsName m) {what : Option String}
    (given : ∀ text, what = some text ↔ ∃ f ∈ outputFiles (outputIn staging) base written files,
      f.path = mirrored (outputIn staging) base c m ∧ f.text = text) :
    (t.readText here (mirrored (outputIn staging) base c m)).toOption = what := by
  cases what with
  | some text =>
    obtain ⟨f, member, path, rfl⟩ := (given text).mp rfl
    rw [← path, adds.written f member]
    rfl
  | none =>
    cases file : t.isFile here (mirrored (outputIn staging) base c m) with
    | true =>
      obtain ⟨f, member, path⟩ := prepared.exists_of_isFile adds named file
      cases (given f.text).mpr ⟨f, member, path, rfl⟩
    | false =>
      obtain ⟨error, unread⟩ := FileTree.readText_of_not_isFile file
      rw [unread]
      rfl

theorem Prepared.filesAt_eq (prepared : Prepared e here staging call)
    (rootNormal : e.options.root.IsNormal) (normal : ∀ p ∈ e.sources.paths, p.IsNormal)
    (adds : call.tree.Adds here t
      (outputFiles (outputIn staging) (baseIn e staging) written (compiledIn e staging)))
    (apart : Apart (outputIn staging) (baseIn e staging) (compiledIn e staging)) {w : World}
    (tree : w.tree = t) (directory : w.directory = here) {q c : Path}
    (member : c ∈ compiledIn e staging) (alike : declared? c = declared? q) :
    filesAt w q (outputBeside e staging c) (declaredNames q) =
      filesFor q.withFileName (declared? q) (written c) := by
  cases declared : declared? q with
  | none =>
    have noNames : declaredNames q = [] := by
      unfold declaredNames
      rw [show q.fileName?.bind declarationName? = none from declared]
    rw [noNames]
    rfl
  | some d =>
    have names : declaredNames q = [d, d ++ ".map"] := by
      unfold declaredNames
      rw [show q.fileName?.bind declarationName? = some d from declared]
    rw [declared] at alike
    obtain ⟨⟨n, file⟩, named, namedMap⟩ := isName_of_declared alike
    have tidy := tidy_outputIn staging
    have beside := prepared.withFileName_outputBeside rootNormal normal member file
    have first : w.textAt? ((outputBeside e staging c).withFileName d) = (written c).map Prod.fst := by
      rw [beside, World.textAt?, tree, directory]
      exact prepared.textAt_mirrored adds named (apart.declarations_iff tidy member alike)
    have second : w.textAt? ((outputBeside e staging c).withFileName (d ++ ".map")) =
        (written c).bind Prod.snd := by
      rw [beside, World.textAt?, tree, directory]
      exact prepared.textAt_mirrored adds namedMap (apart.map_iff tidy member alike)
    rw [names, filesAt]
    simp only [List.filterMap_cons, first, second, List.filterMap_nil]
    obtain _ | ⟨declarations, _ | map⟩ := written c <;> rfl

theorem Prepared.not_unread (prepared : Prepared e here staging call)
    (rootNormal : e.options.root.IsNormal) (normal : ∀ p ∈ e.sources.paths, p.IsNormal)
    (adds : call.tree.Adds here t
      (outputFiles (outputIn staging) (baseIn e staging) written (compiledIn e staging))) {w : World}
    (tree : w.tree = t) (directory : w.directory = here) {q c : Path}
    (member : c ∈ compiledIn e staging) (alike : declared? c = declared? q) {name : String}
    (named : name ∈ declaredNames q) (file : w.isFile ((outputBeside e staging c).withFileName name)) :
    w.textAt? ((outputBeside e staging c).withFileName name) ≠ none := by
  obtain ⟨d, declared, which⟩ : ∃ d, declared? q = some d ∧ (name = d ∨ name = d ++ ".map") := by
    unfold declaredNames at named
    split at named
    · rename_i d declared
      exact ⟨d, declared, List.mem_pair.mp named⟩
    · cases named
  obtain ⟨⟨n, has⟩, isName, isNameMap⟩ := isName_of_declared (alike.trans declared)
  have isName' : IsName name := by
    rcases which with rfl | rfl
    · exact isName
    · exact isNameMap
  rw [prepared.withFileName_outputBeside rootNormal normal member has] at file ⊢
  rw [World.isFile, tree, directory] at file
  obtain ⟨f, inside, path⟩ := prepared.exists_of_isFile adds isName' file
  rw [World.textAt?, tree, directory, ← path, adds.written f inside]
  exact Option.some_ne_none _

theorem Prepared.alike (prepared : Prepared e here staging call) (rootNormal : e.options.root.IsNormal)
    (normal : ∀ p ∈ e.sources.paths, p.IsNormal) {source : Path × SourceText}
    (member : source ∈ e.sources.entries) :
    declared? (compiledPath e.options.root (staging.join "overlay") source) = declared? source.1 := by
  obtain ⟨q, text⟩ := source
  cases text with
  | onDisk => rfl
  | inMemory text =>
    have tidy : (staging.join "overlay").Tidy := Path.tidy_join_name _ isName_overlay
    exact declarationName?_compiledPath rootNormal (normal q (List.mem_map_of_mem member)) tidy
      (prepared.staged q text member).1

end CompilerEngine

end DeclBundle
