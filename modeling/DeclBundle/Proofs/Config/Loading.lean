import DeclBundle.Config.Load
import DeclBundle.Proofs.Files.Tree
import DeclBundle.Proofs.World
import Mathlib

namespace DeclBundle.Config

def layerIn (w : World) (p : Path) : Except Error ConfigLayer :=
  match w.tree.readText w.directory p with
  | .error e => .error (.file (.readConfig p) e)
  | .ok source =>
    match ConfigLayer.ofText source with
    | .ok layer => .ok layer
    | .error e => .error (.inConfig p e)

def baseOf (p : Path) : Path := p.parent?.getD "."

def putFile (w : World) (c : Config) (p : Path) : Except Error Config :=
  (layerIn w p).map fun layer => c.apply layer (baseOf p)

def layerFiles (w : World) (project : Path) (explicit : Option Path) : List Path :=
  ((userFile? w).toList ++ [project]).filter w.isFile ++
    (explicit.map w.directoryPath.resolve).toList

def putEnvironment (w : World) (c : Config) : Except Error Config :=
  match applyEnvironment w.lookupVariable w.directoryPath c with
  | .ok () c => .ok c
  | .error e _ => .error e

/-- The defaults, with the files and the environment put on in this order, and a root set in the end. -/
def layered (w : World) (root project : Path) (explicit : Option Path) : Except Error Config := do
  let c ← (layerFiles w project explicit).foldlM (putFile w) (initial root)
  let c ← putEnvironment w c
  return { c with root := root }

def userRoot? (w : World) : Option Path := do
  let p ← (userFile? w).filter w.isFile
  let layer ← (layerIn w p).toOption
  layer.root.map (baseOf p).resolve

theorem layerIn_of_logs {w t : World} (logs : w.Logs t) : layerIn t = layerIn w := by
  obtain ⟨log, rfl⟩ := logs
  rfl

theorem putFile_of_logs {w t : World} (logs : w.Logs t) : putFile t = putFile w := by
  unfold putFile
  rw [layerIn_of_logs logs]

theorem isFile_of_logs {w t : World} (logs : w.Logs t) : t.isFile = w.isFile := by
  obtain ⟨log, rfl⟩ := logs
  rfl

theorem putEnvironment_of_logs {w t : World} (logs : w.Logs t) :
    putEnvironment t = putEnvironment w := by
  obtain ⟨log, rfl⟩ := logs
  rfl

theorem ends_readLayer (p : Path) (w : World) :
    Act.Ends (readLayer p) w (fun layer t => w.Logs t ∧ layerIn w p = .ok layer)
      fun e _ => layerIn w p = .error e := by
  simp only [readLayer, Act.ends_bind, World.ends_note, World.ends_readText, Act.ends_mapError,
    Act.ends_ofExcept]
  refine ⟨fun source read => ⟨fun layer valid => ?_, fun e invalid => ?_⟩, fun e unread => ?_⟩
  · have found : layerIn w p = .ok layer := by
      change w.tree.readText w.directory p = .ok source at read
      simp only [layerIn, read, valid]
    exact ⟨w.logs_addNote _, found⟩
  · change w.tree.readText w.directory p = .ok source at read
    simp only [layerIn, read, invalid]
  · change w.tree.readText w.directory p = .error e at unread
    simp only [layerIn, unread]

theorem ends_applyFile (p : Path) (c : Config) (w : World) :
    Act.Ends (applyFile p c) w (fun c' t => w.Logs t ∧ putFile w c p = .ok c')
      fun e _ => putFile w c p = .error e := by
  simp only [applyFile, Act.ends_bind, Act.ends_pure]
  refine (ends_readLayer p w).mono ?_ ?_
  · rintro layer t ⟨logs, found⟩
    exact ⟨logs, by rw [putFile, found]; rfl⟩
  · intro e t failed
    rw [putFile, failed]
    rfl

theorem ok_bind {α β : Type} (x : α) (f : α → Except Error β) : (Except.ok x >>= f) = f x := rfl

theorem putFiles_toList (w : World) (p : Option Path) (c : Config) :
    p.toList.foldlM (putFile w) c = p.elim (.ok c) (putFile w c) := by
  cases p with
  | none => rfl
  | some p =>
    change putFile w c p >>= pure = putFile w c p
    exact bind_pure _

theorem putFiles_cons {w : World} {p : Path} {layer : ConfigLayer} (written : layerIn w p = .ok layer)
    (c : Config) (ps : List Path) :
    (p :: ps).foldlM (putFile w) c = ps.foldlM (putFile w) (c.apply layer (baseOf p)) := by
  rw [List.foldlM_cons, putFile, written]
  rfl

theorem layerFiles_eq (w : World) (project : Path) (explicit : Option Path) :
    layerFiles w project explicit = ((userFile? w).filter w.isFile).toList ++
      (((some project).filter w.isFile).toList ++
        (explicit.map w.directoryPath.resolve).toList) := by
  simp [layerFiles, Option.toList_filter]

theorem ends_applyFileIfAny (p : Option Path) (c : Config) (w : World) :
    Act.Ends (applyFileIfAny p c) w
      (fun c' t => w.Logs t ∧ (p.filter w.isFile).toList.foldlM (putFile w) c = .ok c')
      fun e _ => (p.filter w.isFile).toList.foldlM (putFile w) c = .error e := by
  rw [putFiles_toList]
  cases p with
  | none =>
    simp only [applyFileIfAny, Act.ends_pure]
    exact ⟨w.logs_refl, rfl⟩
  | some p =>
    simp only [applyFileIfAny, Act.ends_bind, Act.ends_get, Option.filter_some]
    split
    · exact ends_applyFile p c w
    · rw [Act.ends_pure]
      exact ⟨w.logs_refl, rfl⟩

theorem ends_applyVariables (root : Path) (c : Config) (w : World) :
    Act.Ends (do
        let c ← applyVariables c
        return { c with root := root }) w
      (fun c' _ => (do return { (← putEnvironment w c) with root := root }) = Except.ok c')
      fun e _ => (do return { (← putEnvironment w c) with root := root }) = Except.error e := by
  have ends : Act.Ends (applyVariables c) w (fun c' _ => putEnvironment w c = .ok c')
      fun e _ => putEnvironment w c = .error e := by
    unfold Act.Ends applyVariables putEnvironment
    cases applyEnvironment w.lookupVariable w.directoryPath c <;> rfl
  rw [Act.ends_bind]
  refine ends.mono ?_ ?_
  · rintro c' _ put
    rw [put, Act.ends_pure]
    rfl
  · rintro e _ put
    rw [put]
    rfl

theorem root_of_userFile {w : World} {root : Path} {c : Config}
    (put : ((userFile? w).filter w.isFile).toList.foldlM (putFile w) (initial root) = .ok c) :
    c.root = (userRoot? w).getD root := by
  rw [putFiles_toList] at put
  unfold userRoot?
  cases user : (userFile? w).filter w.isFile with
  | none =>
    rw [user] at put
    obtain rfl : initial root = c := Except.ok.inj put
    rfl
  | some p =>
    rw [user, Option.elim_some, putFile] at put
    cases found : layerIn w p with
    | error e =>
      rw [found] at put
      cases put
    | ok layer =>
      rw [found] at put
      obtain rfl : (initial root).apply layer (baseOf p) = c := Except.ok.inj put
      simp [found, Except.toOption, apply, initial]

theorem ends_load (explicit : Option Path) (root : Path) (w : World) :
    let given := w.directoryPath.resolve root
    let result := layered w given (((userRoot? w).getD given).join fileName) explicit
    Act.Ends (load explicit (some root)) w (fun c _ => result = .ok c) fun e _ => result = .error e := by
  intro given result
  have result_eq : result = layered w given (((userRoot? w).getD given).join fileName) explicit := rfl
  simp only [layered, layerFiles_eq, List.foldlM_append] at result_eq
  simp only [load, Act.ends_bind, Act.ends_get, Option.map_some, Option.getD_some]
  -- One file after the other: what was read so far is rewritten in the result, which then fails or goes on alike.
  refine (ends_applyFileIfAny (userFile? w) (initial given) w).mono ?_ ?_
  · rintro c₁ w₁ ⟨logs₁, user⟩
    rw [← root_of_userFile user, user] at result_eq
    refine (ends_applyFileIfAny (some (c₁.root.join fileName)) c₁ w₁).mono ?_ ?_
    · rintro c₂ w₂ ⟨logs₂, project⟩
      rw [isFile_of_logs logs₁, putFile_of_logs logs₁] at project
      rw [ok_bind, project, ok_bind] at result_eq
      have finished (c : Config) {t : World} (logs : w₂.Logs t) :=
        putEnvironment_of_logs ((logs₁.trans logs₂).trans logs) ▸ ends_applyVariables given c t
      cases explicit with
      | none =>
        rw [result_eq]
        exact finished c₂ w₂.logs_refl
      | some p =>
        rw [Option.map_some, putFiles_toList, Option.elim_some] at result_eq
        rw [← putFile_of_logs (logs₁.trans logs₂)] at result_eq
        rw [Act.ends_bind]
        refine (ends_applyFile (w.directoryPath.resolve p) c₂ w₂).mono ?_ ?_
        · rintro c₃ w₃ ⟨logs₃, named⟩
          rw [named, ok_bind] at result_eq
          rw [result_eq]
          exact finished c₃ logs₃
        · intro e t failed
          rw [result_eq, failed]
          rfl
    · intro e t failed
      rw [isFile_of_logs logs₁, putFile_of_logs logs₁] at failed
      rw [ok_bind, failed] at result_eq
      exact result_eq
  · intro e t failed
    rw [failed] at result_eq
    exact result_eq

/-- Once a configuration is loaded with a root, all its layers have been put on, and the project's file was
taken from below the root that the user's own file names, if it names one. -/
theorem result_load_given_root (explicit : Option Path) (root : Path) (w : World) :
    let given := w.directoryPath.resolve root
    let result := ((load explicit (some root)).outcome w).1
    result = layered w given (((userRoot? w).getD given).join fileName) explicit ∧
      ((∀ r, userRoot? w = some r → r = given) →
        result = layered w given (given.join fileName) explicit) := by
  intro given result
  have loaded : result = layered w given (((userRoot? w).getD given).join fileName) explicit :=
    Act.outcome_of_ends (ends_load explicit root w)
  refine ⟨loaded, fun silent => ?_⟩
  have unmoved : (userRoot? w).getD given = given := by
    cases named : userRoot? w with
    | none => rfl
    | some r => exact silent r named
  rw [loaded, unmoved]

def homeWorld (user project : String) : World where
  tree := ⟨[(["home"], .directory), (["home", ".config"], .directory),
    (["home", ".config", "dtsemit"], .directory),
    (["home", ".config", "dtsemit", "dtsemit.toml"], .file user.toUTF8 false),
    (["proj"], .directory), (["proj", "dtsemit.toml"], .file project.toUTF8 false)]⟩
  directory := ["proj"]
  environment := [("HOME", "/home")]
  compiler := fun _ _ t => ⟨t, .empty, .empty, 0⟩

def homeFile : Path := "/home/.config/dtsemit/dtsemit.toml"

def projectFile : Path := "/proj/dtsemit.toml"

variable (user project : String)

theorem userFile_home : userFile? (homeWorld user project) = some homeFile := by
  have unnamed : (homeWorld user project).lookupVariable "XDG_CONFIG_HOME" = none := rfl
  have home : (homeWorld user project).lookupVariable "HOME" = some "/home" := rfl
  have joined : (((Path.mk "/home").join ".config").join "dtsemit").join fileName = homeFile := by
    decide
  simp only [userFile?, unnamed, home, Option.map_none, Option.filter_none, Option.none_or,
    Option.map_some, joined]

theorem grounded_home : (homeWorld user project).tree.Grounded := by
  apply FileTree.grounded_of_entries
  simp only [homeWorld, List.mem_cons, Prod.mk.injEq, List.not_mem_nil, or_false]
  rintro _ _ (⟨rfl, rfl⟩ | ⟨rfl, rfl⟩ | ⟨rfl, rfl⟩ | ⟨rfl, rfl⟩ | ⟨rfl, rfl⟩ | ⟨rfl, rfl⟩) <;> rfl

theorem find_user_home : (homeWorld user project).tree.find ["proj"] homeFile =
    .ok (["home", ".config", "dtsemit", "dtsemit.toml"], .file user.toUTF8 false) :=
  (grounded_home user project).find_found (by decide) rfl nofun

theorem find_project_home : (homeWorld user project).tree.find ["proj"] projectFile =
    .ok (["proj", "dtsemit.toml"], .file project.toUTF8 false) :=
  (grounded_home user project).find_found (by decide) rfl nofun

theorem isFile_user_home : (homeWorld user project).isFile homeFile :=
  FileTree.isFile_iff.mpr ⟨_, _, find_user_home user project, rfl⟩

theorem isFile_project_home : (homeWorld user project).isFile projectFile :=
  FileTree.isFile_iff.mpr ⟨_, _, find_project_home user project, rfl⟩

variable {user project} {lower upper : ConfigLayer}

theorem layerIn_user_home (written : ConfigLayer.ofText user = .ok lower) :
    layerIn (homeWorld user project) homeFile = .ok lower := by
  have read : (homeWorld user project).tree.readText ["proj"] homeFile = .ok user :=
    FileTree.readText_of_find (find_user_home user project)
  simp only [layerIn, show (homeWorld user project).directory = ["proj"] from rfl, read, written]

theorem layerIn_project_home (written : ConfigLayer.ofText project = .ok upper) :
    layerIn (homeWorld user project) projectFile = .ok upper := by
  have read : (homeWorld user project).tree.readText ["proj"] projectFile = .ok project :=
    FileTree.readText_of_find (find_project_home user project)
  simp only [layerIn, show (homeWorld user project).directory = ["proj"] from rfl, read, written]

theorem userRoot_home (written : ConfigLayer.ofText user = .ok lower) :
    userRoot? (homeWorld user project) = lower.root.map (baseOf homeFile).resolve := by
  have there : (some homeFile).filter (homeWorld user project).isFile = some homeFile := by
    rw [Option.filter_some, if_pos (isFile_user_home user project)]
  rw [userRoot?, userFile_home, there, Option.bind_eq_bind, Option.bind_some,
    layerIn_user_home written]
  rfl

theorem layerFiles_home :
    layerFiles (homeWorld user project) projectFile none = [homeFile, projectFile] := by
  simp [layerFiles, userFile_home, isFile_user_home, isFile_project_home]

theorem layered_home (first : ConfigLayer.ofText user = .ok lower)
    (second : ConfigLayer.ofText project = .ok upper) :
    layered (homeWorld user project) "/proj" projectFile none =
      .ok { ((initial "/proj").apply lower (baseOf homeFile)).apply upper (baseOf projectFile) with
        root := "/proj" } := by
  rw [layered, layerFiles_home, putFiles_cons (layerIn_user_home first),
    putFiles_cons (layerIn_project_home second)]
  rfl

theorem layered_elsewhere (first : ConfigLayer.ofText user = .ok lower) {elsewhere : Path}
    (absent : (homeWorld user project).isFile elsewhere = false) :
    layered (homeWorld user project) "/proj" elsewhere none =
      .ok { (initial "/proj").apply lower (baseOf homeFile) with root := "/proj" } := by
  have files : layerFiles (homeWorld user project) elsewhere none = [homeFile] := by
    simp [layerFiles, userFile_home, isFile_user_home, absent]
  rw [layered, files, putFiles_cons (layerIn_user_home first)]
  rfl

theorem isFile_elsewhere : (homeWorld user project).isFile "/other/dtsemit.toml" = false := by
  have missing : (homeWorld user project).tree.find ["proj"] "/other/dtsemit.toml" = .error .notFound :=
    ((grounded_home user project).find_stuck [] "other" "dtsemit.toml" [] (by decide) rfl rfl true).2
  simp only [World.isFile, FileTree.isFile, show (homeWorld user project).directory = ["proj"] from rfl,
    missing]

/-- A project's file that is not read, since the user's own file names another root. -/
theorem project_file_passed_over :
    let w := homeWorld "root = \"/other\"\n" "clean-vue-file-name = true\n"
    let given := w.directoryPath.resolve "/proj"
    w.isFile (given.join fileName) ∧
      ((load none (some "/proj")).outcome w).1 = .ok (initial "/proj") ∧
      layered w given (given.join fileName) none = .ok { initial "/proj" with cleanNames := true } ∧
      ((load none (some "/proj")).outcome w).1 ≠ layered w given (given.join fileName) none := by
  intro w given
  have user : ConfigLayer.ofText "root = \"/other\"\n" = .ok { root := some "/other" } := by cbv
  have project : ConfigLayer.ofText "clean-vue-file-name = true\n" = .ok { cleanNames := some true } := by
    cbv
  have given_eq : given = "/proj" := by decide
  have file : given.join fileName = projectFile := by
    rw [given_eq]
    decide
  have elsewhere : ((userRoot? w).getD given).join fileName = "/other/dtsemit.toml" := by
    rw [userRoot_home user]
    decide
  have loaded : ((load none (some "/proj")).outcome w).1 = .ok (initial "/proj") := by
    rw [Act.outcome_of_ends (ends_load none "/proj" w)]
    change layered w given (((userRoot? w).getD given).join fileName) none = _
    rw [elsewhere, given_eq, layered_elsewhere user isFile_elsewhere]
    rfl
  have claimed : layered w given (given.join fileName) none =
      .ok { initial "/proj" with cleanNames := true } := by
    rw [file, given_eq, layered_home user project]
    rfl
  refine ⟨file ▸ isFile_project_home _ _, loaded, claimed, ?_⟩
  rw [loaded, claimed]
  intro same
  have names := congrArg Config.cleanNames (Except.ok.inj same)
  cases names

theorem result_load_given_root_home :
    let w := homeWorld "clean-vue-file-name = true\n" "root = \"/other\"\n"
    (∀ r, userRoot? w = some r → r = w.directoryPath.resolve "/proj") ∧
      layerFiles w ((w.directoryPath.resolve "/proj").join fileName) none = [homeFile, projectFile] ∧
      ((load none (some "/proj")).outcome w).1 = .ok { initial "/proj" with cleanNames := true } := by
  intro w
  have user : ConfigLayer.ofText "clean-vue-file-name = true\n" = .ok { cleanNames := some true } := by
    cbv
  have project : ConfigLayer.ofText "root = \"/other\"\n" = .ok { root := some "/other" } := by cbv
  have silent : ∀ r, userRoot? w = some r → r = w.directoryPath.resolve "/proj" := by
    rw [userRoot_home user]
    intro r named
    cases named
  have given : w.directoryPath.resolve "/proj" = "/proj" := by decide
  have file : Path.join "/proj" fileName = projectFile := by decide
  refine ⟨silent, ?_, ?_⟩
  · rw [given, file, layerFiles_home]
  · rw [(result_load_given_root none "/proj" w).2 silent, given, file, layered_home user project]
    rfl

end DeclBundle.Config
