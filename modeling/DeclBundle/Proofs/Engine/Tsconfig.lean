import DeclBundle.Proofs.Engine.Session
import DeclBundle.Proofs.Options.Layers

namespace DeclBundle

namespace Path

def IsScript (p : Path) : Prop :=
  ∃ n, p.fileName? = some n ∧ n ≠ ".js" ∧ n ≠ ".jsx" ∧ (".js".toList <:+ n.toList ∨ ".jsx".toList <:+ n.toList)

end Path

namespace Staging

theorem isJavaScript_iff (p : Path) : isJavaScript p ↔ p.IsScript := by
  have apart (n : String) (ending : String) : n.toList ≠ ending.toList ↔ n ≠ ending := by
    rw [ne_eq, String.toList_inj]
  have js := Path.extension?_eq_some_iff (p := p) (show '.' ∉ "js".toList by decide)
  have jsx := Path.extension?_eq_some_iff (p := p) (show '.' ∉ "jsx".toList by decide)
  unfold isJavaScript Path.IsScript
  simp only [Bool.or_eq_true, decide_eq_true_eq, js, jsx]
  constructor
  · rintro (⟨n, file, more, suffix⟩ | ⟨n, file, more, suffix⟩)
    · refine ⟨n, file, (apart n ".js").mp more, ?_, .inl suffix⟩
      rintro rfl
      exact absurd suffix (by decide)
    · refine ⟨n, file, ?_, (apart n ".jsx").mp more, .inr suffix⟩
      rintro rfl
      exact absurd suffix (by decide)
  · rintro ⟨n, file, notJs, notJsx, suffix | suffix⟩
    · exact .inl ⟨n, file, (apart n ".js").mpr notJs, suffix⟩
    · exact .inr ⟨n, file, (apart n ".jsx").mpr notJsx, suffix⟩

def setting (config : Value) (key : String) : Option Value :=
  (config.field? "compilerOptions").bind (Value.field? key)

theorem lookup_toList_eq (options : CompilerOptions) (key : String) :
    options.toList.lookup key = options[key]? := by
  cases known : options[key]? with
  | some v => exact lookup_toList known
  | none =>
    rw [List.lookup_eq_none_iff]
    intro field member
    have entry := Std.ExtTreeMap.mem_toList_iff_getElem?_eq_some.mp member
    rw [bne_iff_ne]
    rintro rfl
    rw [known] at entry
    cases entry

theorem setting_tsconfig (o : ProjectOptions) (extending : Bool) (sources : List Path) (l : Layout)
    (compiled : List Path) (key : String) :
    setting (tsconfig o extending sources l compiled) key = (compilerOptions o sources l)[key]? := by
  rw [← lookup_toList_eq]
  rfl

def placedOptions : List String := ["outDir", "declarationDir", "rootDir", "rootDirs", "noEmit"]

theorem getElem?_compilerOptions (o : ProjectOptions) (sources : List Path) (l : Layout) {key : String}
    (free : key ∉ placedOptions) : (compilerOptions o sources l)[key]? =
      if key = "allowJs" ∧ sources.any isJavaScript then some ((o.options[key]?).getD (.boolean true))
      else o.options[key]? := by
  simp only [placedOptions, List.mem_cons, List.not_mem_nil, or_false, not_or] at free
  obtain ⟨out, declarations, base, roots, emits⟩ := free
  have placed : (compilerOptions o sources l)[key]? =
      (if sources.any isJavaScript then o.options.insertIfNew "allowJs" (.boolean true)
        else o.options)[key]? := by
    simp only [compilerOptions, Std.ExtTreeMap.getElem?_insert, Std.compare_eq_iff_eq, Ne.symm out,
      Ne.symm declarations, Ne.symm base, Ne.symm roots, Ne.symm emits, if_false]
  rw [placed]
  by_cases script : sources.any isJavaScript
  · simp only [script, if_true, and_true, Std.ExtTreeMap.getElem?_insertIfNew, Std.compare_eq_iff_eq]
    by_cases allow : key = "allowJs"
    · subst allow
      cases known : o.options["allowJs"]? with
      | none =>
        have new : "allowJs" ∉ o.options := fun member => by
          rw [Std.ExtTreeMap.mem_iff_isSome_getElem?, known] at member
          cases member
        simp [new]
      | some v =>
        have old : "allowJs" ∈ o.options := by
          rw [Std.ExtTreeMap.mem_iff_isSome_getElem?, known]
          rfl
        simp [old]
    · have other : ¬"allowJs" = key := fun same => allow same.symm
      simp [allow, other]
  · simp [script]

/-- What a configuration says after layers of settings, `extended` being the one that it goes by. -/
structure Resolves (layers : List ProjectOverrides) (root : Path) (sources compiled : List Path)
    (l : Layout) (extended : Option Path) (config : Value) : Prop where
  guarded : ∀ key ∈ protectedOptions, setting config key = some (.boolean true)
  outDir : setting config "outDir" = some (.text l.output.text)
  declarationDir : setting config "declarationDir" = some (.text l.output.text)
  rootDir : setting config "rootDir" = some (.text l.base.text)
  rootDirs : setting config "rootDirs" = some (.list [.text root.text, .text l.overlay.text])
  emits : setting config "noEmit" = some (.boolean false)
  allowJs_said : ∀ v, lastSaid (·.options["allowJs"]?) layers = some v →
    setting config "allowJs" = some v
  allowJs_due : lastSaid (·.options["allowJs"]?) layers = none → (∃ p ∈ sources, p.IsScript) →
    setting config "allowJs" = some (.boolean true)
  allowJs_absent : lastSaid (·.options["allowJs"]?) layers = none → (∀ p ∈ sources, ¬p.IsScript) →
    setting config "allowJs" = none
  other : ∀ key, key ∉ protectedOptions → key ∉ placedOptions → key ≠ "allowJs" →
    setting config key = lastSaid (·.options[key]?) layers
  files : config.field? "files" = some (.list (compiled.map fun p => .text p.text))
  alone : config.field? "include" = some (.list [])
  extends_eq : config.field? "extends" = extended.map fun p => .text p.text

def configured (layers : List ProjectOverrides) (root : Path) : Path :=
  match lastSaid (·.tsconfigPath) layers with
  | some p => root.resolve p
  | none => root.join "tsconfig.json"

theorem tsconfigPath_ofOverrides (root : Path) (layers : List ProjectOverrides) :
    (ProjectOptions.ofOverrides root (.mergeAll layers)).tsconfigPath = configured layers root := by
  unfold ProjectOptions.ofOverrides
  rw [ProjectOverrides.settles_tsconfigPath.mergeAll rfl]
  rfl

theorem resolves_tsconfig (layers : List ProjectOverrides) (root : Path) (extending : Bool)
    (sources : List Path) (l : Layout) (compiled : List Path) :
    Resolves layers root sources compiled l (if extending then some (configured layers root) else none)
      (tsconfig (.ofOverrides root (.mergeAll layers)) extending sources l compiled) := by
  have options (key : String) : (ProjectOptions.ofOverrides root (.mergeAll layers)).options[key]? =
      if key ∈ protectedOptions then some (.boolean true) else lastSaid (·.options[key]?) layers := by
    rw [← (ProjectOverrides.settles_option key).mergeAll (ProjectOverrides.options_empty key)]
    exact CompilerOptions.getElem?_protect ..
  have allowJs : (ProjectOptions.ofOverrides root (.mergeAll layers)).options["allowJs"]? =
      lastSaid (·.options["allowJs"]?) layers := by
    rw [options, if_neg (by decide)]
  have due : sources.any isJavaScript ↔ ∃ p ∈ sources, p.IsScript := by
    simp only [List.any_eq_true, isJavaScript_iff]
  have places := configures_tsconfig (.ofOverrides root (.mergeAll layers)) extending sources l compiled
  refine ⟨?_, places.outDir, places.declarationDir, places.rootDir, ?_, ?_, ?_, ?_, ?_, ?_, places.listed,
    places.alone, ?_⟩
  · intro key guarded
    have free : ∀ key ∈ protectedOptions, key ∉ placedOptions ∧ key ≠ "allowJs" := by decide
    rw [setting_tsconfig, getElem?_compilerOptions _ _ _ (free key guarded).1,
      if_neg (fun both => (free key guarded).2 both.1), options, if_pos guarded]
  · rw [setting_tsconfig]
    simp only [compilerOptions, Std.ExtTreeMap.getElem?_insert, Std.compare_eq_iff_eq, String.reduceEq,
      if_false, if_true, ProjectOptions.ofOverrides]
  · rw [setting_tsconfig]
    simp only [compilerOptions, Std.ExtTreeMap.getElem?_insert, Std.compare_eq_iff_eq, if_true]
  · intro v said
    rw [setting_tsconfig, getElem?_compilerOptions _ _ _ (by decide), allowJs, said]
    split <;> rfl
  · intro silent script
    rw [setting_tsconfig, getElem?_compilerOptions _ _ _ (by decide), allowJs, silent,
      if_pos ⟨rfl, due.mpr script⟩]
    rfl
  · intro silent none
    have notDue : ¬sources.any isJavaScript := fun script => by
      obtain ⟨p, member, script⟩ := due.mp script
      exact none p member script
    rw [setting_tsconfig, getElem?_compilerOptions _ _ _ (by decide), allowJs, silent,
      if_neg fun both => notDue both.2]
  · intro key unguarded free other
    rw [setting_tsconfig, getElem?_compilerOptions _ _ _ free, if_neg fun both => other both.1, options,
      if_neg unguarded]
  · rw [← tsconfigPath_ofOverrides]
    cases extending <;> rfl

end Staging

namespace CompilerEngine

open Staging

theorem options_of_changes {f : Event} {e e' : CompilerEngine} (changes : f.Changes e e') :
    e'.options = e.options := by
  cases changes <;> rfl

theorem launches_event (r : Request) (e : CompilerEngine) (w : World) :
    (r.event (e, w)).after.2.calls = w.calls ∨ Launches e w (r.event (e, w)).after.2 := by
  have started := (launches_once_compile e w).mono (fun c t ended => Or.inr (a := t.calls = w.calls) ended.2.2)
    fun _ _ ended => ended
  rcases answers_event r (Q := fun _ t => t.calls = w.calls ∨ Launches e w t) started with
    idle | ⟨-, launched, -⟩
  · exact .inl idle
  · exact launched

def FindsResolved (layers : List ProjectOverrides) (root : Path) (sources : List Path) (e : CompilerEngine)
    (here : Place) (call : Call) : Prop :=
  ∃ (staging : Path) (before : FileTree) (config : Value),
    call.invocation.arguments = ["--project", (staging.join "tsconfig.json").text, "--pretty", "false"] ∧
    before.write here (staging.join "tsconfig.json") (Json.indented 0 config).toUTF8 = .ok call.tree ∧
    call.tree.readText here (staging.join "tsconfig.json") = .ok (Json.indented 0 config) ∧
    Resolves layers root sources (compiledIn e staging) (layoutIn e staging)
      (if before.isFile here (configured layers root) then some (configured layers root) else none) config

theorem Launches.findsResolved {layers : List ProjectOverrides} {root : Path} {e : CompilerEngine}
    (options : e.options = .ofOverrides root (.mergeAll layers)) {w t : World} (launches : Launches e w t) :
    ∃ call, t.calls = w.calls ++ [call] ∧
      FindsResolved layers root e.sources.paths e w.directory call := by
  obtain ⟨staging, before, call, calls, arguments, written⟩ := launches
  obtain ⟨_, _, _, _, _, _, found⟩ := FileTree.exists_of_write written
  have named : e.options.tsconfigPath = configured layers root := by
    rw [options, tsconfigPath_ofOverrides]
  refine ⟨call, calls, staging, before, _, arguments, written, FileTree.readText_of_find found, ?_⟩
  rw [configIn, named, options]
  exact resolves_tsconfig ..

/-- In every session, each run of the compiler finds a configuration that resolves the layers of settings. -/
theorem resolves_of_session (layers : List ProjectOverrides) (root command : Path)
    {asked : List (Request × World)} {past rest : List Event} {f : Event}
    (split : session (withCommand (.ofOverrides root (.mergeAll layers)) command) asked =
      past ++ f :: rest) :
    f.before.1.sources.paths = numbered past ∧
      (f.after.2.calls = f.before.2.calls ∨ ∃ call, f.after.2.calls = f.before.2.calls ++ [call] ∧
        FindsResolved layers root (numbered past) f.before.1 f.before.2.directory call) := by
  have kept {past : List Event} {e e' : CompilerEngine} {f : Event}
      (holds : Accounts past e ∧ e.options = .ofOverrides root (.mergeAll layers))
      (changes : f.Changes e e') :
      Accounts (past ++ [f]) e' ∧ e'.options = .ofOverrides root (.mergeAll layers) :=
    ⟨holds.1.step changes, (options_of_changes changes).trans holds.2⟩
  obtain ⟨r, e, w, rfl, accounts, options⟩ := engine_of_session
    (I := fun past e => Accounts past e ∧ e.options = .ofOverrides root (.mergeAll layers)) kept
    ⟨.start _ command, rfl⟩ split
  rw [List.nil_append] at accounts
  refine ⟨accounts.paths, ?_⟩
  rcases launches_event r e w with idle | launches
  · exact .inl idle
  · obtain ⟨call, calls, finds⟩ := launches.findsResolved options
    rw [accounts.paths] at finds
    exact .inr ⟨call, calls, finds⟩

def menuTree : FileTree :=
  ⟨[(["bin"], .directory), (["bin", "tsc"], .file .empty true), (["proj"], .directory),
    (["proj", ".js"], .file .empty false), (["proj", "menu.js"], .file .empty false), (["tmp"], .directory)]⟩

def menuWorld : World := { pageWorld with tree := menuTree }

def menuStage (bytes : ByteArray) : FileTree :=
  (menuTree.put ["tmp", "dtsemit-STAGE"] .directory).put
    ["tmp", "dtsemit-STAGE", "tsconfig.json"] (.file bytes false)

theorem grounded_menu : menuTree.Grounded := by
  apply FileTree.grounded_of_entries
  simp only [menuTree, List.mem_cons, Prod.mk.injEq, List.not_mem_nil, or_false]
  rintro _ _ (⟨rfl, rfl⟩ | ⟨rfl, rfl⟩ | ⟨rfl, rfl⟩ | ⟨rfl, rfl⟩ | ⟨rfl, rfl⟩ | ⟨rfl, rfl⟩) <;> rfl

theorem grounded_menuOpened : (menuTree.put ["tmp", "dtsemit-STAGE"] .directory).Grounded :=
  grounded_menu.put ["tmp"] "dtsemit-STAGE" rfl nofun _

theorem grounded_menuStage (bytes : ByteArray) : (menuStage bytes).Grounded :=
  grounded_menuOpened.put ["tmp", "dtsemit-STAGE"] "tsconfig.json" rfl nofun _

theorem unpacked_menu : menuWorld.isDirectory ((Path.mk "/proj").join "node_modules") = false :=
  grounded_menu.isDirectory_missing ["proj"] "node_modules" (by decide) rfl rfl

theorem makeFresh_menu : menuTree.makeFresh ["proj"] "/tmp" "dtsemit-" =
    (Path.mk "/tmp/dtsemit-STAGE", .ok (menuTree.put ["tmp", "dtsemit-STAGE"] .directory)) :=
  grounded_menu.makeFresh_missing ["tmp"] "dtsemit-STAGE" (by decide) rfl rfl (by decide)

theorem write_menu (bytes : ByteArray) :
    (menuTree.put ["tmp", "dtsemit-STAGE"] .directory).write ["proj"]
      (Path.join "/tmp/dtsemit-STAGE" "tsconfig.json") bytes = .ok (menuStage bytes) :=
  grounded_menuOpened.write_missing ["tmp", "dtsemit-STAGE"] "tsconfig.json" (by decide) rfl rfl bytes

theorem find_root_menu (bytes : ByteArray) :
    (menuStage bytes).find ["proj"] "/proj" = .ok (["proj"], .directory) :=
  (grounded_menuStage bytes).find_found (by decide) rfl (by simp)

theorem find_command_menu (bytes : ByteArray) :
    (menuStage bytes).find ["proj"] "/bin/tsc" = .ok (["bin", "tsc"], .file .empty true) :=
  (grounded_menuStage bytes).find_found (by decide) rfl (by simp)

theorem after_file {e : CompilerEngine} {w : World} {p : Path} {place : Place} {bytes : ByteArray}
    {runnable : Bool} (found : w.tree.find w.directory p = .ok (place, .file bytes runnable)) :
    ((Request.file p).event (e, w)).after.1 = e.enter p .onDisk := by
  apply event_of_ends (P := fun f => f.after.1 = e.enter p .onDisk)
  simp only [Request.ask, engine, addFile, Act.ends_map, Act.ends_bind, Act.ends_get, found]
  exact (ends_register p .onDisk e w).mono (fun _ _ ended => ended.2) fun _ _ overruns => overruns.entered

theorem arranged_menu (compiler : Nat → Invocation → FileTree → Outcome) {e : CompilerEngine}
    (root : e.options.root = "/proj") (listed : e.options.skipListedFiles) (command : e.command = "/bin/tsc")
    (new : e.compilation = none) (onDisk : ∀ source ∈ e.sources.entries, source.2 = .onDisk) :
    Arranged e { menuWorld with compiler := compiler } "/tmp/dtsemit-STAGE" ["proj"] menuStage := by
  have temporary : menuWorld.temporaryDirectory.isRooted := rfl
  have staged := ends_stageSources_onDisk e.options.root (Path.join "/tmp/dtsemit-STAGE" "overlay") onDisk
  exact ⟨new, listed, by rw [root]; exact unpacked_menu, temporary, ⟨_, _, makeFresh_menu, staged _, write_menu⟩,
    fun bytes => by rw [root]; exact find_root_menu bytes, by rw [command]; decide,
    fun bytes => ⟨_, _, by rw [command]; exact find_command_menu bytes⟩⟩

theorem launches_menu {layers : List ProjectOverrides} {e : CompilerEngine}
    (options : e.options = .ofOverrides "/proj" (.mergeAll layers)) (listed : e.options.skipListedFiles)
    (command : e.command = "/bin/tsc") (new : e.compilation = none)
    (onDisk : ∀ source ∈ e.sources.entries, source.2 = .onDisk) :
    Launches e menuWorld (Request.diagnostics.event (e, menuWorld)).after.2 := by
  have root : e.options.root = "/proj" := congrArg ProjectOptions.root options
  have arranged := arranged_menu menuWorld.compiler root listed command new onDisk
  obtain ⟨bytes, calls⟩ := arranged.calls_event (r := .diagnostics) rfl
  apply (launches_event .diagnostics e menuWorld).resolve_left
  intro idle
  have none := calls.symm.trans idle
  simp at none

theorem session_menu {layers : List ProjectOverrides}
    (listed : (ProjectOptions.ofOverrides "/proj" (.mergeAll layers)).skipListedFiles) {p : Path}
    {place : Place} {bytes : ByteArray} {runnable : Bool}
    (found : menuTree.find ["proj"] p = .ok (place, .file bytes runnable)) :
    ∃ g f, session (withCommand (.ofOverrides "/proj" (.mergeAll layers)) "/bin/tsc")
        [(.file p, menuWorld), (.diagnostics, menuWorld)] = [g] ++ f :: [] ∧
      f.before = (⟨.ofOverrides "/proj" (.mergeAll layers), "/bin/tsc", ⟨[(p, .onDisk)]⟩, none⟩, menuWorld) ∧
      Launches f.before.1 menuWorld f.after.2 := by
  let e := withCommand (.ofOverrides "/proj" (.mergeAll layers)) "/bin/tsc"
  let g := (Request.file p).event (e, menuWorld)
  have after : g.after.1 = ⟨e.options, "/bin/tsc", ⟨[(p, .onDisk)]⟩, none⟩ := after_file found
  refine ⟨g, Request.diagnostics.event (g.after.1, menuWorld), rfl, congrArg (·, menuWorld) after, ?_⟩
  change Launches g.after.1 menuWorld (Request.diagnostics.event (g.after.1, menuWorld)).after.2
  rw [after]
  exact launches_menu rfl listed rfl rfl fun source member => by rw [List.mem_singleton.mp member]

def menuLayers : List ProjectOverrides :=
  [{ options := .ofFields
      [("strict", .boolean true), ("noEmit", .boolean true), ("declaration", .boolean false)] },
    { options := .ofFields [("strict", .boolean false)] }]

theorem resolves_of_session_menu :
    ∃ g f call staging config,
      session (withCommand (.ofOverrides "/proj" (.mergeAll menuLayers)) "/bin/tsc")
        [(.file "/proj/menu.js", menuWorld), (.diagnostics, menuWorld)] = [g] ++ f :: [] ∧
      f.after.2.calls = f.before.2.calls ++ [call] ∧
      call.tree.readText ["proj"] (Path.join staging "tsconfig.json") = .ok (Json.indented 0 config) ∧
      setting config "strict" = some (.boolean false) ∧ setting config "noEmit" = some (.boolean false) ∧
      setting config "declaration" = some (.boolean true) ∧
      setting config "allowJs" = some (.boolean true) ∧
      config.field? "files" = some (.list [.text "/proj/menu.js"]) := by
  have found : menuTree.find ["proj"] "/proj/menu.js" = .ok (["proj", "menu.js"], .file .empty false) :=
    grounded_menu.find_found (by decide) rfl (by simp)
  have listed : (ProjectOptions.ofOverrides "/proj" (.mergeAll menuLayers)).skipListedFiles := rfl
  obtain ⟨g, f, split, before, launches⟩ := session_menu listed found
  obtain ⟨numbers, ended⟩ := resolves_of_session menuLayers "/proj" "/bin/tsc" split
  have world : f.before.2 = menuWorld := congrArg Prod.snd before
  rcases ended with idle | ⟨call, calls, staging, tree, config, -, -, written, resolves⟩
  · obtain ⟨call, more⟩ := launches.oneMore
    rw [world, more] at idle
    simp at idle
  · rw [← numbers, before] at resolves
    rw [world] at written
    have strict : lastSaid (·.options["strict"]?) menuLayers = some (.boolean false) := rfl
    have said : lastSaid (·.options["allowJs"]?) menuLayers = none := rfl
    have script : Path.IsScript "/proj/menu.js" := (isJavaScript_iff _).mp (by decide +kernel)
    refine ⟨g, f, call, staging, config, split, calls, written, ?_, resolves.emits,
      resolves.guarded _ (by decide), resolves.allowJs_due said ⟨_, List.mem_singleton_self _, script⟩,
      resolves.files⟩
    rw [resolves.other "strict" (by decide) (by decide) (by decide), strict]

/-- A source whose name is the ending of a JavaScript source alone is compiled without leave to. -/
theorem allowJs_of_hidden :
    ∃ g f call staging config,
      session (withCommand (.ofOverrides "/proj" (.mergeAll [])) "/bin/tsc")
        [(.file "/proj/.js", menuWorld), (.diagnostics, menuWorld)] = [g] ++ f :: [] ∧
      f.before.1.sources.paths = [Path.mk "/proj/.js"] ∧ ".js".toList <:+ (Path.mk "/proj/.js").text.toList ∧
      f.after.2.calls = f.before.2.calls ++ [call] ∧
      call.tree.readText ["proj"] (Path.join staging "tsconfig.json") = .ok (Json.indented 0 config) ∧
      config.field? "files" = some (.list [.text "/proj/.js"]) ∧ setting config "allowJs" = none := by
  have found : menuTree.find ["proj"] "/proj/.js" = .ok (["proj", ".js"], .file .empty false) :=
    grounded_menu.find_found (by decide) rfl (by simp)
  have listed : (ProjectOptions.ofOverrides "/proj" (.mergeAll [])).skipListedFiles := rfl
  obtain ⟨g, f, split, before, launches⟩ := session_menu listed found
  have world : f.before.2 = menuWorld := congrArg Prod.snd before
  have paths : f.before.1.sources.paths = [Path.mk "/proj/.js"] := by rw [before]; rfl
  have options : f.before.1.options = .ofOverrides "/proj" (.mergeAll []) := by rw [before]
  obtain ⟨call, calls, staging, tree, config, -, -, written, resolves⟩ := launches.findsResolved options
  have hidden : ¬Path.IsScript "/proj/.js" := by
    rw [← isJavaScript_iff]
    decide +kernel
  have none : ∀ p ∈ f.before.1.sources.paths, ¬p.IsScript := by
    rw [paths]
    intro p member
    rwa [List.mem_singleton.mp member]
  refine ⟨g, f, call, staging, config, split, paths, ⟨"/proj/".toList, by decide⟩, ?_, written, ?_, ?_⟩
  · rw [world]
    exact calls
  · rw [resolves.files, before]
    rfl
  · exact resolves.allowJs_absent rfl none

end CompilerEngine

end DeclBundle
