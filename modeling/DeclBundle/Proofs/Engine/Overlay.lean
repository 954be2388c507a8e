import DeclBundle.Proofs.Engine.Session

namespace DeclBundle

namespace Staging

/-- `p` is in the root where `q`, which is not in the root, is in the overlay. -/
structure Clash (root p q : Path) : Prop where
  outside : ¬root.location.names <+: q.location.names
  inside : p.location.names = root.location.names ++ externalDirectory.text :: q.location.names

variable {root overlay p q : Path}

theorem Clash.irrefl (p : Path) : ¬Clash root p p := by
  intro clash
  have length := congrArg List.length clash.inside
  rw [List.length_append, List.length_cons] at length
  omega

theorem overlayNames_inside {ns : List String} (place : p.location.names = root.location.names ++ ns) :
    overlayNames root p = ns := by
  unfold overlayNames
  rw [place, if_pos (List.prefix_append ..), List.drop_left]

theorem overlayNames_outside (outside : ¬root.location.names <+: p.location.names) :
    overlayNames root p = externalDirectory.text :: p.location.names := if_neg outside

theorem overlayNames_eq_outside_iff {ns : List String} (place : p.location.names = root.location.names ++ ns)
    (outside : ¬root.location.names <+: q.location.names) :
    overlayNames root p = overlayNames root q ↔ Clash root p q := by
  rw [overlayNames_inside place, overlayNames_outside outside]
  constructor
  · rintro rfl
    exact ⟨outside, place⟩
  · intro clash
    exact List.append_cancel_left (place.symm.trans clash.inside)

theorem overlayNames_eq_iff : overlayNames root p = overlayNames root q ↔
    p.location.names = q.location.names ∨ Clash root p q ∨ Clash root q p := by
  by_cases inside : root.location.names <+: p.location.names
  · obtain ⟨ns, place⟩ := inside
    have notOutside (r : Path) : ¬Clash root r p := fun clash => clash.outside ⟨ns, place⟩
    by_cases inside' : root.location.names <+: q.location.names
    · obtain ⟨ms, place'⟩ := inside'
      have notOutside' (r : Path) : ¬Clash root r q := fun clash => clash.outside ⟨ms, place'⟩
      rw [overlayNames_inside place.symm, overlayNames_inside place'.symm, ← place, ← place',
        List.append_cancel_left_eq]
      simp [notOutside, notOutside']
    · have apart : p.location.names ≠ q.location.names := by
        intro same
        exact inside' ⟨ns, place.trans same⟩
      rw [overlayNames_eq_outside_iff place.symm inside']
      simp [notOutside, apart]
  · by_cases inside' : root.location.names <+: q.location.names
    · obtain ⟨ms, place'⟩ := inside'
      have notOutside' (r : Path) : ¬Clash root r q := fun clash => clash.outside ⟨ms, place'⟩
      have apart : p.location.names ≠ q.location.names := by
        intro same
        exact inside ⟨ms, place'.trans same.symm⟩
      rw [eq_comm, overlayNames_eq_outside_iff place'.symm inside]
      simp [notOutside', apart]
    · have notInside {r s : Path} (outside : ¬root.location.names <+: r.location.names) : ¬Clash root r s :=
        fun clash => outside ⟨_, clash.inside.symm⟩
      rw [overlayNames_outside inside, overlayNames_outside inside', List.cons.injEq]
      simp [notInside inside, notInside inside']

theorem same_iff_names (normal : p.IsNormal) (normal' : q.IsNormal) :
    p.same q ↔ p.location.names = q.location.names := by
  rw [Path.same_iff, normal.steps_eq_names, normal'.steps_eq_names, List.cons_inj_right,
    Location.map_name_inj]

theorem same_staged_of_apart_iff (rootNormal : root.IsNormal) (rooted : overlay.isRooted)
    (normal : p.IsNormal) (normal' : q.IsNormal) (apart : ¬p.same q) :
    (overlay.join (relative root p)).same (overlay.join (relative root q)) ↔
      Clash root p q ∨ Clash root q p := by
  rw [same_iff_names normal normal'] at apart
  rw [same_staged_iff rootNormal rooted normal normal', overlayNames_eq_iff, or_iff_right apart]

theorem location_staged (rootNormal : root.IsNormal) (normal : p.IsNormal) :
    (overlay.join (relative root p)).location = overlay.location.descend (overlayNames root p) := by
  obtain ⟨relative, steps⟩ := relative_spec rootNormal normal
  rw [Path.location_join, if_neg relative, Path.walk_steps_of_relative relative, steps,
    Location.walk_names]

end Staging

namespace CompilerEngine

open Staging

variable {e : CompilerEngine} {w : World}

theorem exists_prepared_event (r : Request) (rootNormal : e.options.root.IsNormal)
    (normal : ∀ p ∈ e.sources.paths, p.IsNormal) (grounded : w.tree.Grounded) {call : Call}
    (ran : (r.event (e, w)).after.2.calls = w.calls ++ [call]) :
    ∃ staging, Prepared e w.directory staging call := by
  let Q (t : World) := t.calls = w.calls ∨
    ∃ staging call, Prepared e w.directory staging call ∧ t.calls = w.calls ++ [call]
  have ends : Act.Ends (compile e) w (fun _ t => Q t) fun _ t => Q t := by
    apply (launches_compile rootNormal normal grounded).mono
    · rintro c t ⟨staging, call, prepared, calls, -⟩
      exact .inr ⟨staging, call, prepared, calls⟩
    · rintro error t (idle | ⟨staging, call, prepared, calls, -⟩)
      · exact .inl idle
      · exact .inr ⟨staging, call, prepared, calls⟩
  have started : (r.event (e, w)).after.2.calls ≠ w.calls := by simp [ran]
  rcases answers_event r (Q := fun _ => Q) ends with idle | ⟨-, idle | ⟨staging, call', prepared, calls⟩, -⟩
  · exact absurd idle started
  · exact absurd idle started
  · obtain rfl : call' = call := by simpa [calls] using ran
    exact ⟨staging, prepared⟩

def Clashes (e : CompilerEngine) : Prop :=
  ∃ p text q text', (p, .inMemory text) ∈ e.sources.entries ∧ (q, .inMemory text') ∈ e.sources.entries ∧
    Clash e.options.root p q

theorem Prepared.inside {here : Place} {staging : Path} {call : Call}
    (prepared : Prepared e here staging call) (rootNormal : e.options.root.IsNormal)
    (normal : ∀ p ∈ e.sources.paths, p.IsNormal) {p : Path} {text : String}
    (member : (p, .inMemory text) ∈ e.sources.entries) :
    (staging.join "overlay").Inside ((staging.join "overlay").join (relative e.options.root p)) := by
  refine ⟨overlayNames e.options.root p, (prepared.staged p text member).1, ?_⟩
  exact location_staged rootNormal (normal p (List.mem_map_of_mem member))

theorem Prepared.not_same_staged {here : Place} {staging : Path} {call : Call}
    (prepared : Prepared e here staging call) (rootNormal : e.options.root.IsNormal)
    (normal : ∀ p ∈ e.sources.paths, p.IsNormal) {p q : Path} {text : String}
    (outside : ¬(staging.join "overlay").Inside p) (member : (q, .inMemory text) ∈ e.sources.entries) :
    ¬p.same ((staging.join "overlay").join (relative e.options.root q)) := by
  intro same
  obtain ⟨ns, some, place⟩ := prepared.inside rootNormal normal member
  apply outside
  refine ⟨ns, some, ?_⟩
  rw [← place]
  unfold Path.location
  rw [Path.same_iff.mp same]

theorem Prepared.pairwise_compiledIn_iff {here : Place} {staging : Path} {call : Call}
    (prepared : Prepared e here staging call) (rootNormal : e.options.root.IsNormal)
    (normal : ∀ p ∈ e.sources.paths, p.IsNormal) (distinct : e.sources.paths.Pairwise fun p q => ¬p.same q)
    (outside : ∀ p, (p, .onDisk) ∈ e.sources.entries → ¬(staging.join "overlay").Inside p) :
    ((compiledIn e staging).Pairwise fun c c' => ¬c.same c') ↔ ¬e.Clashes := by
  have rooted : (staging.join "overlay").isRooted := by
    rw [Path.isRooted_join (Path.relative_ofName isName_overlay) prepared.tidy.text_ne, prepared.rooted]
  have normal' {source : Path × SourceText} (member : source ∈ e.sources.entries) : source.1.IsNormal :=
    normal _ (List.mem_map_of_mem member)
  unfold compiledIn
  rw [List.pairwise_map]
  constructor
  · rintro apart ⟨p, text, q, text', member, member', clash⟩
    -- Of two sources that clash either may come first, so the order of the pairs is given up.
    have symmetric : Std.Symm fun (a b : Path × SourceText) =>
        ¬(compiledPath e.options.root (staging.join "overlay") a).same
          (compiledPath e.options.root (staging.join "overlay") b) :=
      ⟨fun a b apart same => apart (Path.same_symm same)⟩
    have different : (p, SourceText.inMemory text) ≠ (q, .inMemory text') := by
      intro same
      cases same
      exact Clash.irrefl p clash
    apply apart.forall member member' different
    apply (same_staged_iff rootNormal rooted (normal' member) (normal' member')).mpr
    exact overlayNames_eq_iff.mpr (.inr (.inl clash))
  · intro clashless
    apply (List.pairwise_map.mp distinct).imp_of_mem
    rintro ⟨p, text⟩ ⟨q, text'⟩ member member' apart
    cases text with
    | onDisk =>
      cases text' with
      | onDisk => exact apart
      | inMemory text' => exact prepared.not_same_staged rootNormal normal (outside p member) member'
    | inMemory text =>
      cases text' with
      | onDisk =>
        intro same
        exact prepared.not_same_staged rootNormal normal (outside q member') member (Path.same_symm same)
      | inMemory text' =>
        intro same
        rcases (same_staged_of_apart_iff rootNormal rooted (normal' member) (normal' member') apart).mp same with
          clash | clash
        · exact clashless ⟨p, text, q, text', member, member', clash⟩
        · exact clashless ⟨q, text', p, text, member', member, clash⟩

/-- The compiler is given every source once, and every text in a place of its own in the overlay, just when no two
sources clash. -/
theorem staged_once_iff (r : Request) (rootNormal : e.options.root.IsNormal)
    (normal : ∀ p ∈ e.sources.paths, p.IsNormal) (distinct : e.sources.paths.Pairwise fun p q => ¬p.same q)
    (grounded : w.tree.Grounded) {call : Call}
    (ran : (r.event (e, w)).after.2.calls = w.calls ++ [call]) :
    ∃ (staging : Path) (config : Value),
      let overlay := staging.join "overlay"
      let files := e.sources.entries.map (compiledPath e.options.root overlay)
      call.invocation.arguments = ["--project", (staging.join "tsconfig.json").text, "--pretty", "false"] ∧
      call.tree.readText w.directory (staging.join "tsconfig.json") = .ok (Json.indented 0 config) ∧
      config.field? "files" = some (.list (files.map fun c => .text c.text)) ∧
      (∀ p text, (p, .inMemory text) ∈ e.sources.entries →
        overlay.Inside (overlay.join (relative e.options.root p))) ∧
      ((∀ p, (p, .onDisk) ∈ e.sources.entries → ¬overlay.Inside p) →
        ((files.Pairwise fun c c' => ¬c.same c') ↔ ¬e.Clashes) ∧
        (¬e.Clashes → ∀ p text, (p, .inMemory text) ∈ e.sources.entries →
          call.tree.readText w.directory (overlay.join (relative e.options.root p)) = .ok text)) := by
  obtain ⟨staging, prepared⟩ := exists_prepared_event r rootNormal normal grounded ran
  obtain ⟨extending, config⟩ := prepared.config
  refine ⟨staging, _, prepared.arguments, config, (configures_tsconfig ..).listed, ?_, fun outside => ?_⟩
  · exact fun p text member => prepared.inside rootNormal normal member
  · have once := prepared.pairwise_compiledIn_iff rootNormal normal distinct outside
    exact ⟨once, fun clashless p text member => (prepared.staged p text member).2 (once.mpr clashless)⟩

theorem normal_twins {name : String} (known : name ∈ ["a.ts", "b.ts"]) :
    (∀ p ∈ (twinEngine name).sources.paths, p.IsNormal) ∧
      (twinEngine name).sources.paths.Pairwise fun p q => ¬p.same q := by
  rcases List.mem_pair.mp known with rfl | rfl
  all_goals
    constructor
    · intro p member
      rcases List.mem_pair.mp member with rfl | rfl <;> exact ⟨by decide +kernel, by decide +kernel⟩
    · decide +kernel

theorem clashless_twins : ¬(twinEngine "b.ts").Clashes := by
  rintro ⟨p, text, q, text', member, member', clash⟩
  have outside := clash.outside
  have inside := clash.inside
  rcases List.mem_pair.mp member with same | same <;> rcases List.mem_pair.mp member' with same' | same'
  all_goals
    cases same
    cases same'
    revert outside inside
    decide +kernel

theorem staged_once_iff_twins :
    (∀ p ∈ (twinEngine "b.ts").sources.paths, p.IsNormal) ∧
      ((twinEngine "b.ts").sources.paths.Pairwise fun p q => ¬p.same q) ∧ ¬(twinEngine "b.ts").Clashes ∧
      ∃ (call : Call) (staging : Path),
        (Request.emission.event (twinEngine "b.ts", pageWorld)).after.2.calls = [call] ∧
        call.tree.readText ["proj"] ((staging.join "overlay").join (relative "/proj" "/proj/__external__/b.ts")) =
          .ok "1" ∧
        call.tree.readText ["proj"] ((staging.join "overlay").join (relative "/proj" "/a.ts")) = .ok "2" := by
  have known : "b.ts" ∈ ["a.ts", "b.ts"] := by decide
  obtain ⟨normal, distinct⟩ := normal_twins known
  have rootNormal : (twinEngine "b.ts").options.root.IsNormal := ⟨by decide, by decide⟩
  obtain ⟨bytes, ran⟩ := (arranged_twins known [] nofun pageWorld.compiler).calls_event (r := .emission) rfl
  obtain ⟨staging, config, -, -, -, -, kept⟩ :=
    staged_once_iff .emission rootNormal normal distinct grounded_page ran
  have texts : ∀ p, (p, SourceText.onDisk) ∉ (twinEngine "b.ts").sources.entries := by
    intro p member
    rcases List.mem_pair.mp member with same | same <;> cases same
  obtain ⟨-, placed⟩ := kept fun p member => absurd member (texts p)
  refine ⟨normal, distinct, clashless_twins, _, staging, ran, ?_, ?_⟩
  · exact placed clashless_twins _ _ List.mem_cons_self
  · exact placed clashless_twins _ _ (List.mem_cons_of_mem _ List.mem_cons_self)

/-- Two sources that clash are staged one over the other, and the compiler is given the second twice. -/
theorem lost_of_clash :
    Path.IsNormal "/proj" ∧ Path.IsNormal "/proj/__external__/a.ts" ∧ Path.IsNormal "/a.ts" ∧
      ¬Path.same "/proj/__external__/a.ts" "/a.ts" ∧
      relative "/proj" "/proj/__external__/a.ts" = relative "/proj" "/a.ts" ∧
      (twinEngine "a.ts").options.root = "/proj" ∧ (twinEngine "a.ts").sources.entries =
        [(Path.mk "/proj/__external__/a.ts", SourceText.inMemory "1"), (Path.mk "/a.ts", .inMemory "2")] ∧
      ∃ call : Call, (Request.emission.event (twinEngine "a.ts", pageWorld)).after.2.calls = [call] ∧
        call.invocation.arguments =
          ["--project", "/tmp/dtsemit-STAGE/tsconfig.json", "--pretty", "false"] ∧
        compiledIn (twinEngine "a.ts") "/tmp/dtsemit-STAGE" =
          ["/tmp/dtsemit-STAGE/overlay/__external__/a.ts", "/tmp/dtsemit-STAGE/overlay/__external__/a.ts"] ∧
        call.tree.readText ["proj"] "/tmp/dtsemit-STAGE/overlay/__external__/a.ts" = .ok "2" := by
  have known : "a.ts" ∈ ["a.ts", "b.ts"] := by decide
  obtain ⟨bytes, ran⟩ := (arranged_twins known [] nofun pageWorld.compiler).calls_event (r := .emission) rfl
  have found (first second : ByteArray) : (twinStage "a.ts" first second bytes).find ["proj"]
      "/tmp/dtsemit-STAGE/overlay/__external__/a.ts" =
        .ok (["tmp", "dtsemit-STAGE", "overlay", "__external__", "a.ts"], .file second false) :=
    (grounded_twinStage known first second bytes).find_found (by decide) rfl (by simp)
  have joined : Path.join "/tmp/dtsemit-STAGE" "tsconfig.json" = "/tmp/dtsemit-STAGE/tsconfig.json" := by decide
  refine ⟨⟨by decide, by decide⟩, ⟨by decide +kernel, by decide +kernel⟩, ⟨by decide, by decide⟩, by decide +kernel,
    by decide +kernel, rfl, rfl, _, ran, ?_, by decide +kernel, FileTree.readText_of_find (found _ _)⟩
  show ["--project", (Path.join "/tmp/dtsemit-STAGE" "tsconfig.json").text, "--pretty", "false"] = _
  rw [joined]

end CompilerEngine

end DeclBundle
