import DeclBundle.Proofs.Build.Attempts
import DeclBundle.Proofs.Build.Books
import DeclBundle.Proofs.Build.Configuration
import DeclBundle.Proofs.Component.Script
import DeclBundle.Proofs.Files.Tree
import DeclBundle.Proofs.Filter.Default

namespace DeclBundle

open ModuleId (Plain IsQuery)

theorem Path.resolve_of_canonical {file : Path} (canonical : file.IsCanonical) (rooted : file.isRooted)
    (root : Path) : root.resolve file = file := by
  unfold resolve
  rw [join_of_rooted root rooted]
  exact canonical

theorem classify_path {file : Path} (canonical : file.IsCanonical) (rooted : file.isRooted)
    (plain : Plain file.text.toList) (root : Path) :
    classify file.text root =
      if ModuleId.isTypeScript file.text.toList then some (.standalone file) else none := by
  have same : ModuleId.normalizeSlashes file.text.toList = file.text.toList := by
    have kept := ModuleId.normalizeSlashes_append plain []
    rwa [List.append_nil, show ModuleId.normalizeSlashes [] = [] from rfl, List.append_nil] at kept
  have unasked : ¬ModuleId.isScript (ModuleId.normalizeSlashes file.text.toList) := by
    rw [same, ModuleId.not_isScript plain.noQuery]
    exact Bool.false_ne_true
  rw [classify_of_not_isScript unasked, same, String.ofList_toList, Path.resolve_of_canonical canonical rooted]

theorem classify_moduleId {file : Path} (canonical : file.IsCanonical) (rooted : file.isRooted)
    (plain : Plain file.text.toList) (component : ".vue".toList <:+ file.text.toList) {source : String}
    {script : Script} (held : Script.ofSource? source = some script) (root : Path) :
    ∃ lang, classify (script.moduleId file) root = some (.script file lang) := by
  obtain ⟨more, id, -⟩ := script.exists_moduleId held file
  have query : IsQuery (ModuleId.normalizeSlashes ("?vue&type=script".toList ++ more)) :=
    IsQuery.normalizeSlashes (.inr ⟨_, rfl⟩)
  have slashed := (congrArg ModuleId.normalizeSlashes id).trans (ModuleId.normalizeSlashes_append plain _)
  have asked := (congrArg ModuleId.isScript slashed).trans (ModuleId.isScript_component component _)
  rw [classify_of_isScript asked, slashed, ModuleId.stripQuery_append plain.noQuery query, String.ofList_toList,
    Path.resolve_of_canonical canonical rooted]
  exact ⟨_, rfl⟩

theorem PathFilter.accepts_default {f : PathFilter} {root : Path}
    (built : ofSpecs .defaultInclude .defaultExclude root = .ok f) {path query : List Char}
    (plain : Plain path) (isQuery : IsQuery query) (real : '\x00' ∉ query) {id : String}
    (whole : id.toList = path ++ query) :
    f.accepts id ↔ (∃ ending ∈ Matchers.includedEndings, ending.toList <:+ path) ∧
      ¬"/node_modules/".toList <:+: '/' :: path := by
  have noNul : '\x00' ∉ id.toList := by
    rw [whole, List.mem_append]
    intro member
    rcases member with inPath | inQuery
    · exact (plain _ inPath).2.2 rfl
    · exact real inQuery
  have file : (ModuleId.file id).text.toList = path := by
    rw [ModuleId.file, String.toList_ofList, whole, ModuleId.normalizeSlashes_append plain,
      ModuleId.stripQuery_append plain.noQuery isQuery.normalizeSlashes]
  rw [accepts_default_iff built, file, and_iff_right noNul, and_comm]

namespace Build

section Presented

variable {ε α : Type} {engine : Engine ε} {sources : ε → Sources α} {intake : Intake α}

def presentation (intake : Intake α) (p : Plugin ε) (w : World) (file : Path) (source : String) :
    Ruling α :=
  match presented? file source with
  | some (code, id) => Plugin.ruling intake p.filter p.config.root w code id
  | none => .ok none

def Adds (p : Plugin ε) (n : Nat) (p' : Plugin ε) : Ruling α → Prop
  | .ok (some (a, _)) =>
    n = 1 ∧ ∃ id, p'.registry.handles = p.registry.handles ++ [⟨id, a.logicalPath, a.kind⟩]
  | .ok none => n = 0 ∧ p'.registry = p.registry
  | .error _ => False

theorem adds_transformFile (registers : engine.Registers sources intake) (p : Plugin ε) {w : World}
    {file : Path} {source : String} (readable : w.tree.readText w.directory file = .ok source) :
    Act.Ends (transformFile engine file) (p, w)
      (fun n t => Adds p n t.1 (presentation intake p w file source))
      fun e t => presentation intake p w file source = .error e ∨
        Books.Overrun intake.full (p.books sources) (presentation intake p w file source) (.error e)
          (t.1.books sources) := by
  simp only [transformFile, Act.ends_bind, Act.ends_second, World.ends_readText, readable]
  refine ⟨?_, fun e unread => by cases unread⟩
  intro text same
  obtain rfl := Except.ok.inj same
  unfold presentation
  cases presented? file source with
  | none =>
    simp only [Act.ends_bind, Act.ends_second, World.ends_note, Act.ends_pure]
    exact ⟨rfl, rfl⟩
  | some shown =>
    obtain ⟨code, id⟩ := shown
    simp only [Act.ends_bind, Act.ends_pure]
    generalize ruled : Plugin.ruling intake p.filter p.config.root w code id = ruling
    have turned := Plugin.turned_transform registers code id p w
    rw [ruled] at turned
    apply turned.mono
    · intro h t turned
      have books := turned.books
      rcases ruling with e | _ | ⟨a, x⟩
      · cases (Prod.mk.inj books).1
      · obtain ⟨result, kept⟩ := Prod.mk.inj books
        cases result
        exact ⟨rfl, congrArg Books.registry kept⟩
      · rcases Books.turn_cases intake.full (p.books sources) a x with ⟨-, turn⟩ | ⟨-, turn⟩
        · obtain ⟨result, entered⟩ := Prod.mk.inj (books.trans turn)
          cases result
          exact ⟨rfl, _, congrArg (fun b => b.registry.handles) entered⟩
        · cases (Prod.mk.inj (books.trans turn)).1
    · intro e t turned
      have books := turned.books
      rcases ruling with e | _ | ⟨a, x⟩
      · obtain ⟨result, -⟩ := Prod.mk.inj books
        cases result
        exact .inl rfl
      · cases (Prod.mk.inj books).1
      · rcases Books.turn_cases intake.full (p.books sources) a x with ⟨-, turn⟩ | ⟨beyond, turn⟩
        · cases (Prod.mk.inj (books.trans turn)).1
        · obtain ⟨result, entered⟩ := Prod.mk.inj (books.trans turn)
          rw [entered]
          exact .inr ⟨result, rfl, a, x, rfl, beyond, rfl⟩

theorem exists_transformFile (registers : engine.Registers sources intake) {p : Plugin ε} {w : World}
    {file : Path} {source : String} (readable : w.tree.readText w.directory file = .ok source)
    {decided : Option (Admission × α)} (ruled : presentation intake p w file source = .ok decided) :
    (∃ n p' w', transformFile engine file (p, w) = .ok n (p', w') ∧ Adds p n p' (.ok decided)) ∨
      decided.isSome ∧ SourceId.limit ≤ (sources p.engine).paths.length ∧
        ∃ p' w', transformFile engine file (p, w) = .error intake.full (p', w') ∧
          p'.registry = p.registry := by
  have adds := adds_transformFile registers p readable
  rw [ruled] at adds
  cases ran : transformFile engine file (p, w) with
  | ok n t => exact .inl ⟨n, t.1, t.2, rfl, adds.ok ran⟩
  | error e t =>
    rcases adds.error ran with refused | ⟨told, kept, a, x, same, beyond, -⟩
    · cases refused
    · cases told
      cases same
      exact .inr ⟨rfl, beyond.trans (Sources.index_insert_le _ _ _), t.1, t.2, rfl, kept⟩

theorem exists_transformFile_of_none (registers : engine.Registers sources intake) {p : Plugin ε} {w : World}
    {file : Path} {source : String} (readable : w.tree.readText w.directory file = .ok source)
    (ruled : presentation intake p w file source = .ok none) :
    ∃ p' w', transformFile engine file (p, w) = .ok 0 (p', w') ∧ p'.registry = p.registry := by
  rcases exists_transformFile registers readable ruled with ⟨_, p', w', ran, rfl, kept⟩ | ⟨some, -⟩
  · exact ⟨p', w', ran, kept⟩
  · cases some

end Presented

open CompilerEngine (engine)

def Typed (file : Path) (source : String) : Prop :=
  (".ts".toList <:+ file.text.toList ∨ ".tsx".toList <:+ file.text.toList) ∧ source ≠ ""

def Scripted (file : Path) (source : String) : Prop :=
  file.extension? = some "vue" ∧ ∃ script, Script.ofSource? source = some script ∧ script.content ≠ ""

def Installed (file : Path) : Prop := "node_modules" ∈ file.location.names.dropLast

instance (file : Path) : Decidable (Installed file) :=
  inferInstanceAs (Decidable ("node_modules" ∈ file.location.names.dropLast))

section Default

variable {p : Plugin CompilerEngine} (filter : PathFilter.ofSpecs .defaultInclude .defaultExclude
  p.config.root = .ok p.filter) {file : Path} (canonical : file.IsCanonical) (rooted : file.isRooted)
  (plain : Plain file.text.toList) {w : World} {source : String}
  (readable : w.tree.readText w.directory file = .ok source)

include canonical rooted in
theorem installed_iff : Installed file ↔ "/node_modules/".toList <:+: '/' :: file.text.toList :=
  canonical.mem_dropLast_names_iff rooted (by decide)

theorem not_typed_of_component (component : ".vue".toList <:+ file.text.toList) :
    ¬Typed file source := by
  intro typed
  obtain ⟨front, whole⟩ := component
  rcases typed.1 with ⟨stem, same⟩ | ⟨stem, same⟩
  all_goals
    rw [← whole] at same
    have last := congrArg List.getLast? same
    simp at last

include filter canonical rooted plain

theorem accepts_file (id : String) {query : List Char} (isQuery : IsQuery query) (real : '\x00' ∉ query)
    (whole : id.toList = file.text.toList ++ query) : p.filter.accepts id ↔
      (∃ ending ∈ Matchers.includedEndings, ending.toList <:+ file.text.toList) ∧ ¬Installed file := by
  rw [installed_iff canonical rooted]
  exact PathFilter.accepts_default filter plain isQuery real whole

include readable in
theorem presentation_source (other : file.extension? ≠ some "vue") :
    (¬Installed file ∧ Typed file source → presentation CompilerEngine.intake p w file source =
      .ok (some (.standalone file, .onDisk))) ∧
    (¬(¬Installed file ∧ Typed file source) →
      presentation CompilerEngine.intake p w file source = .ok none) := by
  have shown : presented? file source = some (source, file.text) := if_neg other
  have accepts := accepts_file filter canonical rooted plain file.text (.inl rfl) List.not_mem_nil
    (List.append_nil _).symm
  have classified := classify_path canonical rooted plain p.config.root
  have ending : ModuleId.isTypeScript file.text.toList ↔
      ".ts".toList <:+ file.text.toList ∨ ".tsx".toList <:+ file.text.toList := by
    simp only [ModuleId.isTypeScript, Bool.or_eq_true, List.isSuffixOf_iff_suffix]
  unfold presentation
  rw [shown]
  dsimp only
  constructor
  · intro admitted
    obtain ⟨out, typed, nonempty⟩ := admitted
    have included : ∃ ending ∈ Matchers.includedEndings, ending.toList <:+ file.text.toList := by
      rcases typed with suffix | suffix
      · exact ⟨".ts", by decide, suffix⟩
      · exact ⟨".tsx", by decide, suffix⟩
    have admits : p.Admits source file.text (.standalone file) :=
      ⟨by simpa using nonempty, accepts.mpr ⟨included, out⟩, by rw [classified, if_pos (ending.mpr typed)]⟩
    have held : CompilerEngine.intake.held w source (.standalone file) = .ok .onDisk := by
      obtain ⟨place, bytes, executable, found⟩ := FileTree.exists_find_of_readText readable
      simp only [Intake.held, CompilerEngine.intake, found]
    rw [Plugin.ruling_of_admits admits, held]
    rfl
  · intro left
    apply Plugin.ruling_of_not_admits
    intro a admits
    apply left
    refine ⟨(accepts.mp admits.accepted).2, ?_, by simpa using admits.full⟩
    by_contra untyped
    have unclassified := admits.classified
    rw [classified, if_neg (fun typed => untyped (ending.mp typed))] at unclassified
    cases unclassified

variable (w source) in
theorem presentation_component (component : file.extension? = some "vue") :
    (¬Installed file ∧ Scripted file source → ∃ lang text,
      presentation CompilerEngine.intake p w file source = .ok (some (.script file lang, text))) ∧
    (¬(¬Installed file ∧ Scripted file source) →
      presentation CompilerEngine.intake p w file source = .ok none) := by
  have suffix : ".vue".toList <:+ file.text.toList := canonical.suffix_extension component
  have shown : presented? file source =
      (Script.ofSource? source).map fun script => (script.content, script.moduleId file) :=
    if_pos component
  unfold presentation
  rw [shown]
  cases held : Script.ofSource? source with
  | none =>
    constructor
    · intro admitted
      obtain ⟨-, -, script, some, -⟩ := admitted
      rw [held] at some
      cases some
    · intro _
      rfl
  | some script =>
    obtain ⟨more, id, real⟩ := script.exists_moduleId held file
    obtain ⟨lang, classified⟩ :=
      classify_moduleId canonical rooted plain suffix held p.config.root
    have clean : '\x00' ∉ "?vue&type=script".toList ++ more := by
      intro member
      rcases List.mem_append.mp member with front | back
      · exact absurd front (by decide)
      · exact real back
    have accepts := accepts_file filter canonical rooted plain (script.moduleId file)
      (.inr ⟨_, rfl⟩) clean id
    simp only [Option.map_some]
    constructor
    · intro admitted
      obtain ⟨out, -, script', same, nonempty⟩ := admitted
      rw [held] at same
      cases same
      have admits : p.Admits script.content (script.moduleId file) (.script file lang) :=
        ⟨by simpa using nonempty, accepts.mpr ⟨⟨".vue", by decide, suffix⟩, out⟩, classified⟩
      exact ⟨lang, .inMemory script.content, Plugin.ruling_of_admits admits w⟩
    · intro left
      apply Plugin.ruling_of_not_admits
      intro a admits
      exact left ⟨(accepts.mp admits.accepted).2, component, script, held, by simpa using admits.full⟩

end Default

/-- Under the default filter, a file is admitted if it is not installed and is a typed source or a component
with a script. Such a file is refused only when as many sources are known as there are numbers. -/
theorem admitted_iff_of_default {p : Plugin CompilerEngine} (reached : p.Reached engine)
    (includes : p.config.includes = .defaultInclude) (excludes : p.config.excludes = .defaultExclude)
    {file : Path} (canonical : file.IsCanonical) (rooted : file.isRooted)
    (plain : Plain file.text.toList) {w : World} {source : String}
    (readable : w.tree.readText w.directory file = .ok source) :
    (∃ n p' w', transformFile engine file (p, w) = .ok n (p', w') ∧
      (¬Installed file ∧ (Typed file source ∨ Scripted file source) → n = 1 ∧
        ∃ h, p'.registry.handles = p.registry.handles ++ [h] ∧
          (Typed file source → h.kind = .source ∧ h.logicalPath = file) ∧
          (Scripted file source → h.kind = .scriptBlock ∧
            (h.logicalPath = ⟨file.text ++ ".ts"⟩ ∨ h.logicalPath = ⟨file.text ++ ".js"⟩))) ∧
      (¬(¬Installed file ∧ (Typed file source ∨ Scripted file source)) →
        n = 0 ∧ p'.registry = p.registry)) ∨
    SourceId.limit ≤ p.engine.sources.paths.length ∧
      (¬Installed file ∧ (Typed file source ∨ Scripted file source)) ∧
      ∃ p' w', transformFile engine file (p, w) = .error (.tooManySources .outOfRange) (p', w') ∧
        p'.registry = p.registry := by
  have filter : PathFilter.ofSpecs .defaultInclude .defaultExclude p.config.root = .ok p.filter := by
    have built := (reached.held CompilerEngine.holds).filter
    unfold Config.filter at built
    rwa [includes, excludes] at built
  by_cases component : file.extension? = some "vue"
  · have untyped : ¬Typed file source :=
      not_typed_of_component (canonical.suffix_extension component)
    obtain ⟨taken, left⟩ :=
      presentation_component filter canonical rooted plain w source component
    simp only [untyped, false_or]
    by_cases admitted : ¬Installed file ∧ Scripted file source
    · obtain ⟨lang, text, ruled⟩ := taken admitted
      rcases exists_transformFile CompilerEngine.registers readable ruled with
        ⟨n, p', w', ran, rfl, id, handles⟩ | ⟨-, full, refused⟩
      · refine .inl ⟨1, p', w', ran, fun _ => ⟨rfl, _, handles, False.elim, fun _ => ⟨rfl, ?_⟩⟩,
          fun out => absurd admitted out⟩
        simp only [Admission.logicalPath, String.append_assoc]
        cases lang with
        | typeScript => exact .inl rfl
        | javaScript => exact .inr rfl
      · exact .inr ⟨full, admitted, refused⟩
    · obtain ⟨p', w', ran, kept⟩ :=
        exists_transformFile_of_none CompilerEngine.registers readable (left admitted)
      exact .inl ⟨0, p', w', ran, fun taken => absurd taken admitted, fun _ => ⟨rfl, kept⟩⟩
  · have unscripted : ¬Scripted file source := fun scripted => component scripted.1
    obtain ⟨taken, left⟩ := presentation_source filter canonical rooted plain readable component
    simp only [unscripted, or_false]
    by_cases admitted : ¬Installed file ∧ Typed file source
    · rcases exists_transformFile CompilerEngine.registers readable (taken admitted) with
        ⟨n, p', w', ran, rfl, id, handles⟩ | ⟨-, full, refused⟩
      · exact .inl ⟨1, p', w', ran, fun _ => ⟨rfl, _, handles, fun _ => ⟨rfl, rfl⟩, False.elim⟩,
          fun out => absurd admitted out⟩
      · exact .inr ⟨full, admitted, refused⟩
    · obtain ⟨p', w', ran, kept⟩ :=
        exists_transformFile_of_none CompilerEngine.registers readable (left admitted)
      exact .inl ⟨0, p', w', ran, fun taken => absurd taken admitted, fun _ => ⟨rfl, kept⟩⟩

def notesTree (bytes : ByteArray) : FileTree :=
  ⟨[(["proj"], .directory), (["proj", "notes.ts"], .file bytes false)]⟩

def notesWorld : World :=
  { bareWorld with tree := notesTree "export {};".toUTF8 }

theorem find_notes (bytes : ByteArray) : (notesTree bytes).find ["proj"] "/proj/notes.ts" =
    .ok (["proj", "notes.ts"], .file bytes false) :=
  FileTree.find_eq_ok_iff.mpr (FileTree.resolve_eq_ok_iff.mpr ⟨⟨by decide, by decide⟩, by cbv⟩)

theorem exists_create_notes : ∃ p w, Plugin.create engine (.initial "/proj") notesWorld = .ok p w ∧
    p.config = .initial "/proj" ∧ p.registry = .empty ∧ p.engine.sources = .empty := by
  have built : ∃ f, (Config.initial "/proj").filter = .ok f := by
    change ∃ f, PathFilter.ofSpecs .defaultInclude .defaultExclude "/proj" = .ok f
    unfold PathFilter.ofSpecs
    rw [Matchers.ofSpec_defaultInclude, Matchers.ofSpec_defaultExclude]
    exact ⟨_, rfl⟩
  obtain ⟨f, built⟩ := built
  simp only [Plugin.create, built, Act.ofExcept, Bind.bind, EStateM.bind]
  exact ⟨_, _, rfl, rfl, rfl, rfl⟩

theorem admitted_iff_of_default_notes :
    ∃ p, Plugin.Reached engine p ∧ p.config.includes = .defaultInclude ∧
      p.config.excludes = .defaultExclude ∧
      notesWorld.tree.readText notesWorld.directory "/proj/notes.ts" = .ok "export {};" ∧
      ∃ p' w' h, transformFile engine "/proj/notes.ts" (p, notesWorld) = .ok 1 (p', w') ∧
        p'.registry.handles = [h] ∧ h.kind = .source ∧ h.logicalPath = "/proj/notes.ts" := by
  obtain ⟨p, w, created, config, empty, fresh⟩ := exists_create_notes
  have includes : p.config.includes = .defaultInclude := by
    rw [config]
    rfl
  have excludes : p.config.excludes = .defaultExclude := by
    rw [config]
    rfl
  have readable : notesWorld.tree.readText notesWorld.directory "/proj/notes.ts" = .ok "export {};" :=
    FileTree.readText_of_find (find_notes _)
  have canonical : Path.IsCanonical "/proj/notes.ts" := by decide
  have plain : Plain (Path.mk "/proj/notes.ts").text.toList := by decide
  have typed : Typed "/proj/notes.ts" "export {};" :=
    ⟨.inl ⟨"/proj/notes".toList, by decide⟩, by decide⟩
  have apart : ¬Installed "/proj/notes.ts" := by decide
  have room : ¬SourceId.limit ≤ p.engine.sources.paths.length := by
    rw [fresh]
    decide
  obtain ⟨n, p', w', ran, admits, -⟩ := (admitted_iff_of_default (.created created) includes excludes
    canonical (by decide) plain readable).resolve_right fun full => room full.1
  obtain ⟨rfl, h, handles, source, -⟩ := admits ⟨apart, .inl typed⟩
  rw [empty] at handles
  exact ⟨p, .created created, includes, excludes, readable, p', w', h, ran, handles, source typed⟩

end Build

end DeclBundle
