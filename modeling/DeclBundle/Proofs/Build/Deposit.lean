import DeclBundle.Proofs.Build.Refusal
import DeclBundle.Proofs.Files.Frame

namespace DeclBundle

namespace FileTree

def makeAbove (t : FileTree) (here : Place) (p : Path) : Except FileError Unit × FileTree :=
  match p.parent? with
  | some directory => t.makePath here directory
  | none => (.ok (), t)

/-- Puts a text under a path, below directories that are made where they are missing. What was made stays when
the text cannot be written. -/
def deposit (here : Place) (t : FileTree) (a : Attempt) : FileTree :=
  match t.makeAbove here a.path with
  | (.ok (), t) => (t.write here a.path a.text.toUTF8).toOption.getD t
  | (.error _, t) => t

def Puts (here : Place) (t : FileTree) (p : Path) (text : String) (t' : FileTree) : Prop :=
  ∃ above, t.makeAbove here p = (.ok (), above) ∧ above.write here p text.toUTF8 = .ok t'

inductive Written (here : Place) : FileTree → List (Path × String) → FileTree → Prop
  | done (t : FileTree) : Written here t [] t
  | put {t u v : FileTree} {p : Path} {text : String} {rest : List (Path × String)}
      (puts : Puts here t p text u) (later : Written here u rest v) :
      Written here t ((p, text) :: rest) v

variable {t t' u : FileTree} {here place : Place} {p q : Path} {text : String}

theorem Puts.deposit (puts : Puts here t p text t') (error : Option Error) :
    t.deposit here ⟨p, text, error⟩ = t' := by
  obtain ⟨above, made, written⟩ := puts
  unfold FileTree.deposit
  rw [made]
  dsimp only
  rw [written]
  rfl

theorem makeAbove_eq (same : t'.entry? = t.entry?) (here : Place) (p : Path) :
    (t'.makeAbove here p).1 = (t.makeAbove here p).1 ∧
      entry? (t'.makeAbove here p).2 = entry? (t.makeAbove here p).2 := by
  unfold makeAbove
  split
  · exact makePath_eq same here _
  · exact ⟨rfl, same⟩

theorem deposit_eq (same : t'.entry? = t.entry?) (here : Place) (a : Attempt) :
    entry? (t'.deposit here a) = entry? (t.deposit here a) := by
  have above := makeAbove_eq same here a.path
  unfold deposit
  rcases made : t.makeAbove here a.path with ⟨_ | _, v⟩ <;>
    rcases made' : t'.makeAbove here a.path with ⟨_ | _, v'⟩ <;>
    rw [made, made'] at above <;> obtain ⟨result, entries⟩ := above <;> cases result
  · exact entries
  · rcases alike_of_map_eq (map_write_eq entries here a.path a.text.toUTF8) with
      ⟨e, failed, failed'⟩ | ⟨u, u', written, written', alike⟩
    · simp only [failed, failed']
      exact entries
    · simp only [written, written']
      exact alike

theorem Puts.exists_of_same (puts : Puts here t p text u) (same : t'.entry? = t.entry?) :
    ∃ u', Puts here t' p text u' := by
  obtain ⟨above, made, written⟩ := puts
  obtain ⟨v, made', alike⟩ : ∃ v, t'.makeAbove here p = (.ok (), v) ∧ v.entry? = above.entry? := by
    have eq := makeAbove_eq same here p
    rw [made] at eq
    exact ⟨(t'.makeAbove here p).2, Prod.ext eq.1 rfl, eq.2⟩
  rcases alike_of_map_eq (map_write_eq alike here p text.toUTF8) with ⟨e, failed, -⟩ | ⟨w, w', -, written', -⟩
  · cases written.symm.trans failed
  · exact ⟨w', v, made', written'⟩

theorem foldl_deposit_eq (same : t'.entry? = t.entry?) (here : Place) (attempts : List Attempt) :
    entry? (attempts.foldl (deposit here) t') = entry? (attempts.foldl (deposit here) t) := by
  induction attempts generalizing t t' with
  | nil => exact same
  | cons a rest ih => exact ih (deposit_eq same here a)

theorem widens_makeAbove (t : FileTree) (here : Place) (p : Path) : t.Widens (t.makeAbove here p).2 := by
  unfold makeAbove
  split
  · exact widens_makePath t here _
  · exact .refl t

theorem Puts.exists_find (puts : Puts here t p text t') : ∃ place executable,
    t.Keeps [place] t' ∧ t'.find here p = .ok (place, .file text.toUTF8 executable) := by
  obtain ⟨above, made, written⟩ := puts
  obtain ⟨place, executable, -, -, -, kept, found⟩ := exists_of_write written
  have widened := widens_makeAbove t here p
  rw [made] at widened
  exact ⟨place, executable, widened.kept.trans kept, found⟩

theorem eq_of_find {e e' : Entry} (found : t.find here p = .ok (place, e))
    (found' : t.find here q = .ok (place, e')) (file : e.isFile) (file' : e'.isFile) :
    t.find here p = t.find here q := by
  have same : some e = some e' := (entry?_of_find found file).symm.trans (entry?_of_find found' file')
  rw [found, found', Option.some.inj same]

theorem Puts.find (puts : Puts here t q text t') {e : Entry} (found : t.find here p = .ok (place, e))
    (file : e.isFile) : ∃ e', t'.find here p = .ok (place, e') ∧ e'.isFile ∧
      (e' = e ∨ t'.find here q = t'.find here p) := by
  obtain ⟨other, executable, kept, new⟩ := puts.exists_find
  by_cases same : other = place
  · subst same
    have stands := entry?_of_find new rfl
    obtain ⟨bytes, runnable, rfl⟩ : ∃ bytes runnable, e = .file bytes runnable := by
      cases e with
      | file bytes runnable => exact ⟨bytes, runnable, rfl⟩
      | directory => cases file
      | link => cases file
    have again : t'.find here p = .ok (other, .file text.toUTF8 executable) := by
      rw [find_eq_ok_iff, resolve_eq_ok_iff] at found ⊢
      exact ⟨found.1, kept.walk_written found.2 rfl stands⟩
    exact ⟨_, again, rfl, .inr (eq_of_find new again rfl rfl)⟩
  · have apart : place ∉ [other] := fun member => same (List.mem_singleton.mp member).symm
    exact ⟨e, kept.find found fun _ => apart, file, .inl rfl⟩

theorem Written.find {files : List (Path × String)} (written : Written here t files u) {e : Entry}
    (found : t.find here p = .ok (place, e)) (file : e.isFile) :
    ∃ e', u.find here p = .ok (place, e') ∧ e'.isFile ∧
      (e' = e ∨ ∃ g ∈ files, u.find here g.1 = u.find here p) := by
  induction written generalizing p e with
  | done t => exact ⟨e, found, file, .inl rfl⟩
  | @put t v u q text rest puts later ih =>
    obtain ⟨e₁, found₁, file₁, kept⟩ := puts.find found file
    obtain ⟨e₂, found₂, file₂, kept'⟩ := ih found₁ file₁
    refine ⟨e₂, found₂, file₂, ?_⟩
    rcases kept' with rfl | ⟨g, member, same⟩
    · refine kept.imp id fun overwritten => ⟨(q, text), List.mem_cons_self, ?_⟩
      -- The path that was written over it leads to the same file from then on.
      obtain ⟨e₃, found₃, file₃, -⟩ := ih (overwritten.trans found₁) file₁
      exact eq_of_find found₃ found₂ file₃ file₂
    · exact .inr ⟨g, List.mem_cons_of_mem _ member, same⟩

theorem Written.exists_find {before after : List (Path × String)}
    (written : Written here t (before ++ (p, text) :: after) u) : ∃ v place executable,
      v.find here p = .ok (place, .file text.toUTF8 executable) ∧ Written here v after u := by
  induction before generalizing t with
  | nil =>
    cases written with
    | put puts later =>
      obtain ⟨place, executable, -, found⟩ := puts.exists_find
      exact ⟨_, place, executable, found, later⟩
  | cons first before ih =>
    cases written with
    | put _ later => exact ih later

/-- A text that was put under a path is there in the end, unless a later one was put into the same file. -/
theorem Written.readText {before after : List (Path × String)}
    (written : Written here t (before ++ (p, text) :: after) u)
    (last : ∀ g ∈ after, u.find here g.1 ≠ u.find here p) : u.readText here p = .ok text := by
  obtain ⟨v, place, executable, found, later⟩ := written.exists_find
  obtain ⟨e, found', -, kept⟩ := later.find found rfl
  obtain rfl := kept.resolve_right fun ⟨g, member, same⟩ => last g member same
  exact readText_of_find found'

end FileTree

namespace Sink

theorem ends_disk (p : Path) (text : String) (w : World) :
    Act.Ends (disk.write p text) ((), w)
      (fun _ t => ∃ tree, w.tree.Puts w.directory p text tree ∧ t.2 = { w with tree := tree })
      fun e t => (∀ tree, ¬w.tree.Puts w.directory p text tree) ∧
        t.2 = { w with tree := w.tree.deposit w.directory ⟨p, text, some e⟩ } := by
  have written (t : FileTree) (above : w.tree.makeAbove w.directory p = (.ok (), t)) :
      Act.Ends (World.writeText (.writeDeclaration p) p text) { w with tree := t }
        (fun _ u => ∃ tree, w.tree.Puts w.directory p text tree ∧ u = { w with tree := tree })
        fun e u => (∀ tree, ¬w.tree.Puts w.directory p text tree) ∧
          u = { w with tree := w.tree.deposit w.directory ⟨p, text, some e⟩ } := by
    rw [World.ends_writeText]
    dsimp only
    refine ⟨fun tree wrote => ⟨tree, ⟨t, above, wrote⟩, rfl⟩, fun e failed => ⟨?_, ?_⟩⟩
    · rintro tree ⟨t', above', wrote⟩
      obtain rfl := (Prod.mk.inj (above.symm.trans above')).2
      cases failed.symm.trans wrote
    · unfold FileTree.deposit
      rw [above]
      dsimp only
      rw [failed]
      rfl
  simp only [disk, Act.ends_second]
  cases parent : p.parent? with
  | none => exact written w.tree (by simp only [FileTree.makeAbove, parent])
  | some directory =>
    have above : w.tree.makeAbove w.directory p = w.tree.makePath w.directory directory := by
      simp only [FileTree.makeAbove, parent]
    simp only [Act.ends_bind]
    rw [World.ends_makePath]
    refine ⟨fun tree made => written tree (above.trans made), fun e tree failed => ⟨?_, ?_⟩⟩
    · rintro tree ⟨t, made, -⟩
      cases (Prod.mk.inj (failed.symm.trans (above.symm.trans made))).1
    · unfold FileTree.deposit
      rw [above, failed]

theorem Delivers.tree_disk {s t : Unit × World} {attempts : List Attempt}
    (delivers : disk.Delivers s attempts t) : t.2.directory = s.2.directory ∧
      t.2.tree = attempts.foldl (.deposit s.2.directory) s.2.tree := by
  induction delivers with
  | done => exact ⟨rfl, rfl⟩
  | noted r _ ih => exact ih
  | @written s t u p text _ run _ ih =>
    obtain ⟨tree, puts, after⟩ := (ends_disk p text s.2).ok run
    rw [after] at ih
    rw [List.foldl_cons, puts.deposit]
    exact ih
  | @refused s t p text e run =>
    rw [((ends_disk p text s.2).error run).2]
    exact ⟨rfl, rfl⟩

theorem Delivers.written_disk {s t : Unit × World} {attempts : List Attempt}
    (delivers : disk.Delivers s attempts t) (all : Attempt.AllWritten attempts) :
    FileTree.Written s.2.directory s.2.tree (attempts.map fun a => (a.path, a.text)) t.2.tree := by
  induction delivers with
  | done => exact .done _
  | noted r _ ih => exact ih all
  | @written s t u p text _ run _ ih =>
    obtain ⟨tree, puts, after⟩ := (ends_disk p text s.2).ok run
    rw [after] at ih
    exact .put puts (ih fun a member => all a (List.mem_cons_of_mem _ member))
  | refused run => cases all _ List.mem_cons_self

end Sink

namespace Build

open CompilerEngine (engine)

def deskBuilt (bytes declarations : ByteArray) : FileTree :=
  ((deskTree bytes).put ["proj", "dist"] .directory).put ["proj", "dist", "Badge.vue.d.ts"] (.file declarations false)

theorem puts_desk (bytes : ByteArray) (text : String) : (deskTree bytes).Puts ["proj"] "/proj/dist/Badge.vue.d.ts"
    text (deskBuilt bytes text.toUTF8) := by
  have grounded : ((deskTree bytes).put ["proj", "dist"] .directory).Grounded :=
    (grounded_desk bytes).put ["proj"] "dist" rfl nofun _
  have parent : (Path.mk "/proj/dist/Badge.vue.d.ts").parent? = some (Path.mk "/proj/dist") := by decide
  have parent' : (Path.mk "/proj/dist").parent? = some (Path.mk "/proj") := by decide
  have made : (deskTree bytes).makeDirectory ["proj"] "/proj/dist" =
      .ok ((deskTree bytes).put ["proj", "dist"] .directory) :=
    (grounded_desk bytes).makeDirectory_missing ["proj"] "dist" (by decide) rfl rfl
  refine ⟨_, ?_, grounded.write_missing ["proj", "dist"] "Badge.vue.d.ts" (by decide) rfl rfl _⟩
  unfold FileTree.makeAbove
  rw [parent]
  exact FileTree.makeDirectories_of_new 10 parent' made

theorem exists_run_desk {w : World} (logs : deskWorld.Logs w) : ∃ p' w',
    run engine Sink.disk ["Badge.vue"] { directory := some "dist" } (deskPlugin deskEngine [], (), w) =
      .ok ⟨1, 0, ["/proj/dist/Badge.vue.d.ts"]⟩ (p', (), w') ∧
    w'.tree.readText w'.directory "/proj/dist/Badge.vue.d.ts" = .ok "export declare const size = 1;" := by
  have ends := ends_run_desk Sink.disk () logs
  cases ran : run engine Sink.disk ["Badge.vue"] { directory := some "dist" } (deskPlugin deskEngine [], (), w) with
  | ok summary t =>
    obtain ⟨rfl, u, v, stays, wrote, -, ⟨log, after⟩⟩ := ends.ok ran
    obtain ⟨tree, puts, written⟩ := (Sink.ends_disk ..).ok wrote
    obtain ⟨place, executable, -, found⟩ := puts.exists_find
    refine ⟨t.1, t.2.2, rfl, ?_⟩
    rw [after, written]
    exact FileTree.readText_of_find found
  | error e t =>
    obtain ⟨u, stays, failed⟩ := ends.error ran
    obtain ⟨never, -⟩ := (Sink.ends_disk ..).error failed
    obtain ⟨tree, puts⟩ := (puts_desk _ _).exists_of_same stays.files
    rw [stays.directory] at never
    exact absurd puts (never tree)

end Build

end DeclBundle
