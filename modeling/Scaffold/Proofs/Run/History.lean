import Scaffold.Proofs.Bundled.Outputs
import Scaffold.Proofs.Patch.Insertion
import Scaffold.Proofs.Recipe.Destination
import Scaffold.Proofs.Run.AllOrNothing
/-!
# Histories of runs

The setup file over a history of runs of the authentication generator. Each run that succeeds and is
not dry puts the same rows right after the same line, and nothing else touches the file.
-/

namespace Scaffold.Run

open Filesystem Text Recipe.Auth

/-! ## The rows -/

theorem not_infix_ofList {needle cs : List Char} (h : occursIn needle cs = false) :
    ¬ needle <:+: (String.ofList cs).toList := by
  rw [String.toList_ofList, ← occursIn_iff, h]
  exact Bool.false_ne_true

-- the longest lines are read character by character
set_option maxRecDepth 1024 in
theorem brace_not_infix_setupLines : ∀ payload ∈ setupLines, ¬ [' ', '{'] <:+: payload.toList := by
  simp only [setupLines, List.forall_mem_cons]
  and_intros
  all_goals first | exact not_infix_ofList rfl | exact List.forall_mem_nil _

theorem marker_not_infix_row {anchor : Patch.Anchor} (hanchor : anchor ∈ setupPatch.anchors)
    {line row : List Char} (hrow : row ∈ setupPatch.rows (Line.indentation line)) :
    ¬ anchor.marker.toList <:+: row := by
  -- both anchors open a block, which no line of the payload does behind a space
  have hmarker : ∀ anchor ∈ setupPatch.anchors,
      '\t' ∉ anchor.marker.toList ∧ [' ', '{'] <:+: anchor.marker.toList := by
    simp only [← occursIn_iff]
    decide
  obtain ⟨htab, hbrace⟩ := hmarker anchor hanchor
  obtain ⟨payload, hmem, rfl⟩ := List.mem_map.mp hrow
  rw [Patch.row]
  split
  · intro hoccurs
    rw [List.infix_nil.mp hoccurs] at hbrace
    simp at hbrace
  · change ¬ _ <:+: Line.indentation line ++ ['\t'] ++ payload.toList
    rw [List.append_assoc, List.singleton_append, infix_append_cons_iff htab]
    rintro (hoccurs | hoccurs)
    · have hindentation : '{' ∈ Line.indentation line :=
        hoccurs.subset (hbrace.subset (by decide : '{' ∈ [' ', '{']))
      have hblank := List.mem_takeWhile_imp hindentation
      revert hblank
      decide
    · exact brace_not_infix_setupLines payload hmem (hbrace.trans hoccurs)

/-! ## One run -/

structure AuthRun where
  project : Project
  attributes : AttributeSet
  time : Instant
  migrations : String
  dryRun : Bool

namespace AuthRun

def request (r : AuthRun) (root : Path) : Request :=
  ⟨root, r.project, r.attributes, r.dryRun⟩

def perform (r : AuthRun) (root : Path) (render : Renderer) :
    StateM Store (Except Failure Report) :=
  run ofStore TemplateSource.auth render (Recipe.auth r.migrations) (r.request root) r.time.stamp

end AuthRun

theorem source_auth : (TemplateSource.auth : TemplateSource (StateM Store)) =
    .listing "embedded:auth" (.ok Bundled.authTemplates) := by
  rw [← Bundled.ofFiles_auth]
  rfl

/-- No bundled template is at the path of the setup file, so no generated file gets there. -/
theorem placeOf_ne_setupPath {r : AuthRun} {root : Path} {render : Renderer} {drafts : List Draft}
    (h : outputs (Recipe.auth r.migrations) render (r.request root) r.time.stamp
      Bundled.authTemplates = .ok drafts) {draft : Draft} (hdraft : draft ∈ drafts) :
    (placeOf root draft).components ≠ (root.join ⟨Recipe.Auth.setupPath⟩).components := by
  obtain ⟨template, htemplate, happly⟩ := exists_template_of_outputs_eq_ok h hdraft
  have hsetup : (Path.mk Recipe.Auth.setupPath).components = [.name "actions", .name "app.go"] := by
    decide
  have hlisted : ∀ components ∈ Bundled.authTemplates.map (·.path.path.components),
      .here ∉ components ∧ components ≠ [.name "actions", .name "app.go"] := by
    rw [Bundled.components_authTemplates]
    decide
  obtain ⟨hhere, hother⟩ := hlisted _ (List.mem_map_of_mem htemplate)
  rw [placeOf, ne_eq, join_eq_setupPath_iff happly (Bundled.isText_authTemplates _ htemplate),
    Path.components_join_eq_iff template.path.not_absolute rfl, hsetup,
    Path.within_of_notMem hhere, Path.within_of_notMem (by decide)]
  exact hother

theorem isText_of_outputs {r : AuthRun} {root : Path} {render : Renderer} {drafts : List Draft}
    (h : outputs (Recipe.auth r.migrations) render (r.request root) r.time.stamp
      Bundled.authTemplates = .ok drafts) {draft : Draft} (hdraft : draft ∈ drafts) :
    draft.path.path.IsText := by
  obtain ⟨template, htemplate, happly⟩ := exists_template_of_outputs_eq_ok h hdraft
  exact Stage.isText_of_applyAll happly (Bundled.isText_authTemplates _ htemplate)

theorem run_perform {store : Store} (h : store.Reachable) (r : AuthRun) (root : Path)
    (render : Renderer) :
    (r.perform root render).run store =
      match preparedIn render (Recipe.auth r.migrations) (r.request root) r.time.stamp
          (.ok Bundled.authTemplates) store with
      | .error failure => (.error failure, store)
      | .ok (drafts, patch) =>
        (.ok (report (Recipe.auth r.migrations) (r.request root) r.time.stamp drafts patch),
          if r.dryRun then store
          else (generate root store drafts).put (root.join ⟨Recipe.Auth.setupPath⟩)
            patch.content.toUTF8) := by
  rw [AuthRun.perform, source_auth, run_run_of_reachable h]
  cases preparedIn render (Recipe.auth r.migrations) (r.request root) r.time.stamp
    (.ok Bundled.authTemplates) store <;> rfl

/-- What a run does to a setup file that is text: it fails and leaves the file, or it succeeds, and
then the file is patched unless the run is dry. -/
theorem perform_cases {store : Store} (h : store.Reachable) {root : Path} {text : String}
    (htext : store.bytes? (root.join ⟨Recipe.Auth.setupPath⟩) = some text.toUTF8) (r : AuthRun)
    (render : Renderer) :
    (∃ failure, ((r.perform root render).run store).1 = .error failure ∧
      ((r.perform root render).run store).2.bytes? (root.join ⟨Recipe.Auth.setupPath⟩) =
        some text.toUTF8) ∨
    ∃ drafts patch, setupPatch.apply text = .ok patch ∧
      ((r.perform root render).run store).1 =
        .ok (report (Recipe.auth r.migrations) (r.request root) r.time.stamp drafts patch) ∧
      (∀ draft ∈ drafts, draft.path.path.IsText ∧
        (placeOf root draft).components ≠ (root.join ⟨Recipe.Auth.setupPath⟩).components) ∧
      ((r.perform root render).run store).2.bytes? (root.join ⟨Recipe.Auth.setupPath⟩) =
        some (if r.dryRun then text else patch.content).toUTF8 := by
  rw [run_perform h]
  cases hprepared : preparedIn render (Recipe.auth r.migrations) (r.request root) r.time.stamp
    (.ok Bundled.authTemplates) store with
  | error failure => exact .inl ⟨failure, rfl, htext⟩
  | ok prepared =>
      obtain ⟨drafts, patch⟩ := prepared
      obtain ⟨_, source, hlisted, hdrafts, hread, hpatch⟩ :=
        (preparedIn_eq_ok_iff _ _ _ _).mp hprepared
      obtain rfl := Except.ok.inj hlisted
      obtain rfl := Except.ok.inj (hread.symm.trans (Store.readText_of_bytes? htext))
      refine .inr ⟨drafts, patch, hpatch, rfl, fun draft hdraft =>
        ⟨isText_of_outputs hdrafts hdraft, placeOf_ne_setupPath hdrafts hdraft⟩, ?_⟩
      dsimp only
      split
      · exact htext
      · rw [Store.bytes?_put, if_pos (Path.same_iff.mpr rfl)]

theorem reachable_perform {store : Store} (h : store.Reachable) (r : AuthRun) (root : Path)
    (render : Renderer) : ((r.perform root render).run store).2.Reachable := by
  rw [AuthRun.perform, source_auth]
  exact reachable_run h _ _ _ _ _ _

/-! ## Histories -/

def history (root : Path) (render : Renderer) (runs : List AuthRun) :
    StateM Store (List (Except Failure Report)) :=
  runs.mapM fun r => r.perform root render

/-- The number of runs that succeeded and were not dry. -/
def patches (runs : List AuthRun) (outcomes : List (Except Failure Report)) : Nat :=
  (runs.zip outcomes).countP fun (r, outcome) => !r.dryRun && outcome.isOk

theorem run_history_cons (r : AuthRun) (runs : List AuthRun) (root : Path) (render : Renderer)
    (store : Store) :
    (history root render (r :: runs)).run store =
      (((r.perform root render).run store).1 ::
          ((history root render runs).run ((r.perform root render).run store).2).1,
        ((history root render runs).run ((r.perform root render).run store).2).2) := by
  rw [history, List.mapM_cons]
  rfl

theorem patches_cons_error (r : AuthRun) (runs : List AuthRun) (failure : Failure)
    (outcomes : List (Except Failure Report)) :
    patches (r :: runs) (.error failure :: outcomes) = patches runs outcomes := by
  cases hdry : r.dryRun <;> simp [patches, hdry, Except.toBool]

theorem patches_cons_ok (r : AuthRun) (runs : List AuthRun) (report : Report)
    (outcomes : List (Except Failure Report)) :
    patches (r :: runs) (.ok report :: outcomes) =
      patches runs outcomes + if r.dryRun then 0 else 1 := by
  cases hdry : r.dryRun <;> simp [patches, hdry, Except.toBool]

/-- What patching preserves of the text of the setup file, counting the patches, holds after every
history, with the number of runs that succeeded and were not dry for the count. -/
theorem history_invariant {Inv : Nat → String → Prop} {found : Patch.Outcome → Prop}
    (hstep : ∀ n text patch, Inv n text → setupPatch.apply text = .ok patch →
      Inv (n + 1) patch.content ∧ found patch)
    {store : Store} (h : store.Reachable) {root : Path} {n : Nat} {text : String}
    (htext : store.bytes? (root.join ⟨Recipe.Auth.setupPath⟩) = some text.toUTF8)
    (hinv : Inv n text) (render : Renderer) (runs : List AuthRun) :
    let result := (history root render runs).run store
    result.1.length = runs.length ∧
    (∃ last, Inv (n + patches runs result.1) last ∧
      result.2.bytes? (root.join ⟨Recipe.Auth.setupPath⟩) = some last.toUTF8) ∧
    ∀ report, .ok report ∈ result.1 →
      (∃ patch, found patch ∧ report.anchor = patch.anchor.marker ∧
        report.warnings = patch.warning.toList) ∧
      ∀ path : String, path ∈ report.written →
        (root.join ⟨path⟩).components ≠ (root.join ⟨Recipe.Auth.setupPath⟩).components := by
  -- on the runs, for every store and count: only a run that succeeds and writes takes a step
  induction runs generalizing store n text with
  | nil => exact ⟨rfl, ⟨text, hinv, htext⟩, fun _ hreport => by cases hreport⟩
  | cons r runs ih =>
      intro result
      have hresult : result = _ := run_history_cons r runs root render store
      have hreachable := reachable_perform h r root render
      obtain ⟨failure, hfailure, hbytes⟩ | ⟨drafts, patch, hpatch, hreport, hplaces, hbytes⟩ :=
        perform_cases h htext r render
      · obtain ⟨hlength, hlast, hreports⟩ := ih hreachable hbytes hinv
        rw [hresult, hfailure, patches_cons_error]
        refine ⟨congrArg Nat.succ hlength, hlast, ?_⟩
        intro report hmem
        exact hreports report (by simpa using hmem)
      · obtain ⟨hpatched, hfound⟩ := hstep n text patch hinv hpatch
        have hnext : Inv (n + if r.dryRun then 0 else 1)
            (if r.dryRun then text else patch.content) := by
          split
          · exact hinv
          · exact hpatched
        obtain ⟨hlength, ⟨last, hlast, hbytes'⟩, hreports⟩ := ih hreachable hbytes hnext
        rw [hresult, hreport, patches_cons_ok]
        refine ⟨congrArg Nat.succ hlength, ⟨last, ?_, hbytes'⟩, ?_⟩
        · rwa [Nat.add_assoc, Nat.add_comm (if r.dryRun then 0 else 1)] at hlast
        · intro report hmem
          rcases List.mem_cons.mp hmem with heq | hmem
          · obtain rfl := Except.ok.inj heq
            refine ⟨⟨patch, hfound, rfl, rfl⟩, ?_⟩
            intro path hpath
            obtain ⟨draft, hdraft, rfl⟩ := List.mem_map.mp hpath
            obtain ⟨htext', hplace⟩ := hplaces draft hdraft
            rw [Draft.components_join_toSlash htext']
            exact hplace
          · exact hreports report hmem

/-! ## The setup file -/

theorem marker_chars {anchor : Patch.Anchor} (h : anchor ∈ setupPatch.anchors) :
    anchor.marker.toList ≠ [] ∧ '\n' ∉ anchor.marker.toList ∧ '\r' ∉ anchor.marker.toList := by
  have hmarker : ∀ anchor ∈ setupPatch.anchors, anchor.marker.toList ≠ [] ∧
      '\n' ∉ anchor.marker.toList ∧ '\r' ∉ anchor.marker.toList := by
    decide
  exact hmarker anchor h

theorem marker_infix_iff {anchor : Patch.Anchor} (h : anchor ∈ setupPatch.anchors)
    {cs : List Char} :
    anchor.marker.toList <:+: cs ↔ ∃ line ∈ Line.split cs, anchor.marker.toList <:+: line := by
  obtain ⟨hne, hnewline, -⟩ := marker_chars h
  exact Line.infix_iff_exists_line hne fun hmem => hnewline ((List.dropLast_sublist _).subset hmem)

theorem setupPatch_apply_repeated {c : String} {patch : Patch.Outcome}
    (h : setupPatch.apply c = .ok patch) {line : List Char}
    (hline : (Line.split c.toList)[patch.line]? = some line) (hreturn : line.getLast? ≠ some '\r')
    (times : Nat) :
    setupPatch.apply (setupPatch.repeated c patch.line line times) =
      .ok { patch with content := setupPatch.repeated c patch.line line (times + 1) } := by
  refine Patch.apply_repeated h hline hreturn ?_ times
  intro other hother
  have hmem := List.mem_of_mem_take hother
  obtain ⟨-, hnewline, hcarriage⟩ := marker_chars hmem
  exact ⟨hnewline, hcarriage, fun row hrow => marker_not_infix_row hmem hrow⟩

/-- The setup file after a history of runs. Without an anchor every run fails and the file stays.
Otherwise the payload stands behind the first line that holds the anchor, once for each run that
succeeded and was not dry, unless that line ends in a carriage return alone; and all runs that
succeed report the same anchor and the same warnings. No run generates a file at its path. -/
theorem setup_file_after_history {store : Store} (h : store.Reachable) {root : Path} {c : String}
    (hc : store.bytes? (root.join ⟨"actions/app.go"⟩) = some c.toUTF8) (render : Renderer)
    (runs : List AuthRun) :
    let setup := root.join ⟨"actions/app.go"⟩
    let result := (history root render runs).run store
    let k := (runs.zip result.1).countP fun (r, outcome) => !r.dryRun && outcome.isOk
    result.1.length = runs.length ∧
    (∀ report, ∀ path : String, .ok report ∈ result.1 → path ∈ report.written →
      (root.join ⟨path⟩).components ≠ setup.components) ∧
    ((∀ anchor ∈ [currentAnchor, legacyAnchor], ¬ anchor.marker.toList <:+: c.toList) →
      (∀ outcome ∈ result.1, ∃ failure, outcome = .error failure) ∧
      result.2.bytes? setup = some c.toUTF8) ∧
    ((∃ anchor ∈ [currentAnchor, legacyAnchor], anchor.marker.toList <:+: c.toList) →
      ∃ i anchor earlier line later block,
        let rows := setupLines.map fun row =>
          if row.toList.all isBlank then []
          else line.takeWhile (fun c => c = ' ' || c = '\t') ++ ['\t'] ++ row.toList
        [currentAnchor, legacyAnchor][i]? = some anchor ∧
        (∀ other ∈ [currentAnchor, legacyAnchor].take i, ¬ other.marker.toList <:+: c.toList) ∧
        Line.split c.toList = earlier ++ line :: later ∧
        anchor.marker.toList <:+: line ∧
        (∀ other ∈ earlier, ¬ anchor.marker.toList <:+: other) ∧
        (['\r', '\n'] <:+ line → block = rows.flatMap (· ++ ['\r', '\n'])) ∧
        (['\n'] <:+ line → ¬ ['\r', '\n'] <:+ line → block = rows.flatMap (· ++ ['\n'])) ∧
        (¬ ['\n'] <:+ line → later = [] ∧ block = rows.flatMap (['\n'] ++ ·)) ∧
        (line.getLast? ≠ some '\r' →
          result.2.bytes? setup =
            some (String.ofList (earlier.flatten ++ line ++ (List.replicate k block).flatten ++
              later.flatten)).toUTF8 ∧
          ∀ report, .ok report ∈ result.1 →
            report.anchor = anchor.marker ∧
            report.warnings =
              if i = 0 then [] else [⟨"actions/app.go", anchor.marker, anchor.note⟩])) := by
  intro setup result k
  obtain ⟨hlength, -, hreports⟩ := @history_invariant (fun _ _ => True) (fun _ => True)
    (fun _ _ _ _ _ => ⟨trivial, trivial⟩) _ h root 0 c hc trivial render runs
  refine ⟨hlength, fun report path hreport => (hreports report hreport).2 path, ?_, ?_⟩
  · intro hnone
    have hfails (patch : Patch.Outcome) : setupPatch.apply c ≠ .ok patch := by
      intro hok
      obtain ⟨anchor, hanchor, hline⟩ := Patch.exists_apply_eq_ok_iff.mp ⟨patch, hok⟩
      exact hnone anchor hanchor ((marker_infix_iff hanchor).mpr hline)
    obtain ⟨-, ⟨last, rfl, hbytes⟩, hfailed⟩ := @history_invariant (fun _ text => text = c)
      (fun _ => False) (fun _ text patch htext hok => absurd (htext ▸ hok) (hfails patch)) _ h root
      0 c hc rfl render runs
    refine ⟨?_, hbytes⟩
    intro outcome hmem
    cases outcome with
    | error failure => exact ⟨failure, rfl⟩
    | ok report =>
        obtain ⟨⟨_, hfound, -⟩, -⟩ := hfailed report hmem
        exact hfound.elim
  · intro hsome
    obtain ⟨patch, hok⟩ : ∃ patch, setupPatch.apply c = .ok patch := by
      obtain ⟨anchor, hanchor, hoccurs⟩ := hsome
      exact Patch.exists_apply_eq_ok_iff.mpr ⟨anchor, hanchor, (marker_infix_iff hanchor).mp hoccurs⟩
    obtain ⟨hanchor, -, hearlier⟩ := Patch.anchor_of_apply_eq_ok hok
    obtain ⟨-, -, hwarning⟩ := Patch.exists_locate?_of_apply_eq_ok hok
    obtain ⟨earlier, line, later, hsplit, hlength, hfound, hbefore, -⟩ :=
      Patch.exists_split_of_apply_eq_ok hok
    have hline : (Line.split c.toList)[patch.line]? = some line := by simp [hsplit, ← hlength]
    let rows := setupPatch.rows (Line.indentation line)
    obtain ⟨hcarriage, hnewline, hbare⟩ := Line.block_ending line rows
    refine ⟨patch.anchorIndex, patch.anchor, earlier, line, later,
      Line.block (Line.ending line) rows, hanchor, ?_, hsplit, hfound, hbefore, hcarriage, hnewline,
      fun hend => ⟨Line.later_eq_nil hsplit (mt Line.newline_suffix_iff.mpr hend), hbare hend⟩, ?_⟩
    · intro other hother hoccurs
      obtain ⟨held, hheld, hoccurs⟩ := (marker_infix_iff (List.mem_of_mem_take hother)).mp hoccurs
      exact Line.find?_eq_none_iff.mp (hearlier other hother) held hheld hoccurs
    · intro hreturn
      have hagain (n : Nat) (text : String) (again : Patch.Outcome)
          (htext : text = setupPatch.repeated c patch.line line n)
          (hagain : setupPatch.apply text = .ok again) :
          again.content = setupPatch.repeated c patch.line line (n + 1) ∧
            again.anchor = patch.anchor ∧ again.warning = patch.warning := by
        rw [htext, setupPatch_apply_repeated hok hline hreturn] at hagain
        obtain rfl := Except.ok.inj hagain
        exact ⟨rfl, rfl, rfl⟩
      obtain ⟨-, ⟨last, rfl, hbytes⟩, hpatched⟩ := history_invariant hagain h hc
        (Patch.repeated_zero _ _ _ _).symm render runs
      refine ⟨?_, ?_⟩
      · rw [show result.2.bytes? setup = _ from hbytes, Nat.zero_add, Patch.Request.repeated,
          ← hlength, Line.insertAfter_of_split hsplit, Line.block_flatten_replicate]
        rfl
      · intro report hmem
        obtain ⟨⟨again, ⟨hanchor', hwarning'⟩, hreported, hwarned⟩, -⟩ := hpatched report hmem
        rw [hreported, hwarned, hanchor', hwarning', hwarning]
        refine ⟨rfl, ?_⟩
        split <;> rfl

theorem isOk_perform {store : Store} (h : store.Reachable) {root : Path} {text : String}
    (htext : store.bytes? (root.join ⟨Recipe.Auth.setupPath⟩) = some text.toUTF8)
    {patch : Patch.Outcome} (hpatch : setupPatch.apply text = .ok patch) (r : AuthRun) :
    ((r.perform root renderTemplate).run store).1.isOk =
      decide ((Stage.bareDirectory r.migrations).head? ≠ some '/') := by
  have hiff := exists_run_eq_ok_iff h "embedded:auth" (.ok Bundled.authTemplates) renderTemplate
    (Recipe.auth r.migrations) (r.request root) r.time.stamp
  have hisOk {outcome : Except Failure Report} :
      outcome.isOk = true ↔ ∃ report, outcome = .ok report := by
    cases outcome <;> simp [Except.isOk, Except.toBool]
  rw [Bool.eq_iff_iff, hisOk, decide_eq_true_eq, AuthRun.perform, source_auth, hiff]
  constructor
  · rintro ⟨_, drafts, _, _, hlisted, hdrafts, -⟩
    obtain rfl := Except.ok.inj hlisted
    exact (isAbsolute_stampedPath _ _ _).mp (Bundled.not_absolute_of_outputs_eq_ok hdrafts)
  · intro hdirectory
    obtain ⟨form, hdrafts⟩ := @Bundled.outputs_auth r.migrations (r.request root) r.time.stamp
      ((isAbsolute_stampedPath _ _ _).mpr hdirectory)
    exact ⟨_, _, text, patch, rfl, hdrafts, Store.readText_of_bytes? htext, hpatch⟩

/-- On a setup file that can be patched, the runs of a history succeed whose directory is
relative. -/
theorem isOk_history {store : Store} (h : store.Reachable) {root : Path} {text : String}
    (htext : store.bytes? (root.join ⟨Recipe.Auth.setupPath⟩) = some text.toUTF8)
    (hpatch : ∃ patch, setupPatch.apply text = .ok patch) (runs : List AuthRun) :
    ((history root renderTemplate runs).run store).1.map Except.isOk =
      runs.map fun r => decide ((Stage.bareDirectory r.migrations).head? ≠ some '/') := by
  induction runs generalizing store text with
  | nil => rfl
  | cons r runs ih =>
      obtain ⟨patch, hpatch⟩ := hpatch
      have hreachable := reachable_perform h r root renderTemplate
      have hagain : ∃ again, setupPatch.apply patch.content = .ok again := by
        have hanchor := List.mem_of_getElem? (Patch.anchor_of_apply_eq_ok hpatch).1
        exact Patch.exists_apply_eq_ok_iff.mpr ⟨patch.anchor, hanchor,
          (marker_infix_iff hanchor).mp (Patch.marker_infix_of_apply_eq_ok hpatch)⟩
      rw [run_history_cons, List.map_cons, List.map_cons, isOk_perform h htext hpatch]
      obtain ⟨_, -, hbytes⟩ | ⟨_, patch', hpatch', -, -, hbytes⟩ :=
        perform_cases h htext r renderTemplate
      · rw [ih hreachable hbytes ⟨patch, hpatch⟩]
      · -- the file holds the patched text, unless the run was dry
        obtain rfl := Except.ok.inj (hpatch.symm.trans hpatch')
        rw [ih hreachable hbytes]
        split
        · exact ⟨patch, hpatch⟩
        · exact hagain

theorem countP_zip_isOk (runs : List AuthRun) (outcomes : List (Except Failure Report)) :
    (runs.zip outcomes).countP (fun (r, outcome) => !r.dryRun && outcome.isOk) =
      (runs.zip (outcomes.map Except.isOk)).countP fun run => !run.1.dryRun && run.2 := by
  rw [List.zip_map_right, List.countP_map]
  rfl

/-- A dry run, one that fails and two that succeed, on an old application: its setup file is patched
twice. -/
theorem setup_file_after_four_runs :
    let root : Path := ⟨"/work"⟩
    let store := Store.empty.withFile ⟨"/work/actions/app.go"⟩ "if app == nil \x7b\n".toUTF8
    let project := Project.ofRoot root
    let runs : List AuthRun :=
      [⟨project, .empty, ⟨0, by decide⟩, "migrations", true⟩,
        ⟨project, .empty, ⟨0, by decide⟩, "/migrations", false⟩,
        ⟨project, .empty, ⟨0, by decide⟩, "db/migrations//", false⟩,
        ⟨project, ⟨[⟨"age", "int?", false⟩]⟩, ⟨86400000000000, by decide⟩, "migrations", false⟩]
    let result := (history root renderTemplate runs).run store
    result.1.map Except.isOk = [true, false, true, true] ∧
    result.2.bytes? (root.join ⟨"actions/app.go"⟩) =
      some (String.ofList ("if app == nil \x7b\n".toList ++
        (List.replicate 2 ((setupPatch.rows []).flatMap (· ++ ['\n']))).flatten)).toUTF8 := by
  intro root store project runs result
  have hstore : store.Reachable := .withFile _ _ .empty
  have hbytes : store.bytes? (root.join ⟨"actions/app.go"⟩) =
      some "if app == nil \x7b\n".toUTF8 := by decide +kernel
  have hpatch : ∃ patch, setupPatch.apply "if app == nil \x7b\n" = .ok patch := by
    have hlegacy : legacyAnchor ∈ setupPatch.anchors := by decide
    exact Patch.exists_apply_eq_ok_iff.mpr
      ⟨legacyAnchor, hlegacy, (marker_infix_iff hlegacy).mp (by decide +kernel)⟩
  have houtcomes : result.1.map Except.isOk = [true, false, true, true] :=
    (isOk_history hstore hbytes hpatch runs).trans (by decide +kernel)
  refine ⟨houtcomes, ?_⟩
  obtain ⟨-, -, -, hpatched⟩ := setup_file_after_history hstore hbytes renderTemplate runs
  obtain ⟨i, anchor, earlier, line, later, block, -, -, hsplit, -, -, -, hnewline, -, hafter⟩ :=
    hpatched ⟨legacyAnchor, by simp, by decide +kernel⟩
  have hlines : Line.split "if app == nil \x7b\n".toList = ["if app == nil \x7b\n".toList] := by
    decide
  rw [hlines] at hsplit
  obtain ⟨rfl, rfl, rfl⟩ : earlier = [] ∧ line = "if app == nil \x7b\n".toList ∧ later = [] := by
    cases earlier with
    | nil => exact ⟨rfl, (List.cons.inj hsplit).1.symm, (List.cons.inj hsplit).2.symm⟩
    | cons other earlier => simp at hsplit
  have hcount : (runs.zip result.1).countP (fun (r, outcome) => !r.dryRun && outcome.isOk) = 2 := by
    rw [countP_zip_isOk, houtcomes]
    rfl
  have hindentation : "if app == nil \x7b\n".toList.takeWhile (fun c => c = ' ' || c = '\t') = [] := by
    decide
  rw [(hafter (by decide)).1, hcount, hnewline (by decide) (by decide), hindentation,
    List.flatten_nil, List.nil_append, List.append_nil]
  rfl

end Scaffold.Run
