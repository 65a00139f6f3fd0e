import Scaffold.Proofs.Patch.Anchors
import Scaffold.Proofs.Run.OnStore
import Scaffold.Recipe.Auth
/-!
# What a run leaves behind

What a successful run leaves behind. The files are the old ones with the generated files written
over them in order, and last the setup file, patched as it was before the run.
-/

namespace Scaffold.Run

open Filesystem Text

theorem files_generate (root : Path) (store : Store) (drafts : List Draft) :
    (generate root store drafts).files =
      (drafts.map fun draft => (placeOf root draft, draft.content)).foldl
        (fun files write => Store.insertFile write.1 write.2 files) store.files := by
  induction drafts generalizing store with
  | nil => rfl
  | cons draft drafts ih =>
      change (generate root (store.withFile (placeOf root draft) draft.content) drafts).files = _
      rw [ih, Store.files_withFile]
      rfl

theorem files_put_generate (root : Path) (store : Store) (drafts : List Draft) (target : Path)
    (content : ByteArray) :
    ((generate root store drafts).put target content).files =
      (drafts.map (fun draft => (placeOf root draft, draft.content)) ++ [(target, content)]).foldl
        (fun files write => Store.insertFile write.1 write.2 files) store.files := by
  rw [List.foldl_append, ← files_generate]
  rfl

theorem bytes?_put_generate (root : Path) (store : Store) (drafts : List Draft) (target : Path)
    (content : ByteArray) (path : Path) :
    ((generate root store drafts).put target content).bytes? path =
      (((drafts.map (fun draft => (placeOf root draft, draft.content)) ++
        [(target, content)]).reverse.find? fun write => write.1.same path).map (·.2)).or
        (store.bytes? path) := by
  rw [Store.bytes?, files_put_generate, Store.find?_foldl_insertFile]
  rfl

variable {render : Renderer} {recipe : Recipe} {request : Request} {stamp : Stamp}

/-- A run that succeeds and is not dry has written the generated files and the setup file. -/
theorem exists_of_run_eq_ok {store : Store} {describe : String}
    {listed : Except Failure (List Draft)} {outcome : Report} (hwet : request.dryRun = false)
    (hrun : ((run ofStore (.listing describe listed) render recipe request stamp).run store).1 =
      .ok outcome) :
    ∃ drafts patch,
      preparedIn render recipe request stamp listed store = .ok (drafts, patch) ∧
      outcome = report recipe request stamp drafts patch ∧
      ((run ofStore (.listing describe listed) render recipe request stamp).run store).2 =
        (generate request.root store drafts).put (setupPath recipe request.root)
          patch.content.toUTF8 := by
  rw [run_run_ofStore] at hrun ⊢
  cases hprepared : preparedIn render recipe request stamp listed store with
  | error failure =>
      rw [hprepared] at hrun
      cases hrun
  | ok prepared =>
      obtain ⟨drafts, patch⟩ := prepared
      rw [hprepared] at hrun
      dsimp only at hrun ⊢
      rw [run_finish, run_performAll_plan, Store.write, if_neg (by simp [hwet])] at hrun ⊢
      by_cases hwritable :
          (generate request.root store drafts).isWritable (setupPath recipe request.root) = true
      · rw [if_pos hwritable] at hrun ⊢
        exact ⟨drafts, patch, rfl, (Except.ok.inj hrun).symm, rfl⟩
      · rw [if_neg hwritable] at hrun
        cases hrun

/-- The files after a successful run, and its report. A file keeps the bytes that were written to
it last, and the patch is that of the text the setup file had before the run. -/
theorem run_success_effect (store : Store) (describe : String)
    (listed : Except Failure (List Draft)) (render : Renderer) (recipe : Recipe)
    (request : Request) (stamp : Stamp) (outcome : Report) (hwet : request.dryRun = false)
    (hrun : ((run ofStore (.listing describe listed) render recipe request stamp).run store).1 =
      .ok outcome) :
    ∃ templates drafts text patch,
      let target := request.root.join ⟨recipe.patch.target⟩
      let after := ((run ofStore (.listing describe listed) render recipe request stamp).run store).2
      let writes :=
        drafts.map (fun draft => (request.root.join draft.path.path, draft.content)) ++
          [(target, patch.content.toUTF8)]
      listed = .ok templates ∧
      List.Forall₂
        (fun template draft =>
          Stage.applyAll (recipe.stages render ⟨request.project, request.attributes⟩ stamp)
            template = .ok draft)
        templates drafts ∧
      store.readText target = .ok text ∧
      recipe.patch.apply text = .ok patch ∧
      after.files =
        writes.foldl (fun files write => Store.insertFile write.1 write.2 files) store.files ∧
      (∀ path, after.bytes? path =
        ((writes.reverse.find? fun write => write.1.same path).map (·.2)).or
          (store.bytes? path)) ∧
      (∀ path, (∀ write ∈ writes, write.1.components ≠ path.components) →
        after.bytes? path = store.bytes? path) ∧
      store.paths ⊆ after.paths ∧
      outcome.written = drafts.map (·.path.toSlash) ∧
      outcome.written.length = templates.length ∧
      recipe.patch.anchors[patch.anchorIndex]? = some patch.anchor ∧
      outcome.anchor = patch.anchor.marker ∧
      (∃ line ∈ Line.split text.toList, outcome.anchor.toList <:+: line) ∧
      (∀ other ∈ recipe.patch.anchors.take patch.anchorIndex,
        ∀ line ∈ Line.split text.toList, ¬ other.marker.toList <:+: line) ∧
      outcome.warnings =
        if patch.anchorIndex = 0 then []
        else [⟨recipe.patch.target, outcome.anchor, patch.anchor.note⟩] := by
  obtain ⟨drafts, patch, hprepared, rfl, hafter⟩ := exists_of_run_eq_ok hwet hrun
  obtain ⟨templates, text, hlisted, hdrafts, hread, hpatch⟩ :=
    (preparedIn_eq_ok_iff render recipe request stamp).mp hprepared
  have hgenerated := (outputs_eq_ok_iff render recipe request stamp).mp hdrafts
  obtain ⟨hanchor, hline, hearlier⟩ := Patch.anchor_of_apply_eq_ok hpatch
  obtain ⟨-, -, hwarning⟩ := Patch.exists_locate?_of_apply_eq_ok hpatch
  refine ⟨templates, drafts, text, patch, ?_⟩
  intro target after writes
  have hfiles : after.files =
      writes.foldl (fun files write => Store.insertFile write.1 write.2 files) store.files := by
    rw [show after = _ from hafter, files_put_generate]
    rfl
  have hbytes (path : Path) : after.bytes? path =
      ((writes.reverse.find? fun write => write.1.same path).map (·.2)).or
        (store.bytes? path) := by
    rw [show after = _ from hafter, bytes?_put_generate]
    rfl
  have hframe (path : Path) (hother : ∀ write ∈ writes, write.1.components ≠ path.components) :
      after.bytes? path = store.bytes? path := by
    have hnone : (writes.reverse.find? fun write => write.1.same path) = none := by
      rw [List.find?_eq_none]
      intro write hwrite hsame
      exact hother write (List.mem_reverse.mp hwrite) (Path.same_iff.mp hsame)
    rw [hbytes, hnone]
    rfl
  have hpaths : store.paths ⊆ after.paths := by
    intro path hpath
    rw [Store.paths, hfiles]
    exact Store.fst_mem_foldl_insertFile hpath
  refine ⟨hlisted, hgenerated, hread, hpatch, hfiles, hbytes, hframe, hpaths, rfl, ?_, hanchor,
    rfl, ?_, ?_, ?_⟩
  · simpa [report] using hgenerated.length_eq.symm
  · rw [← Line.find?_isSome_iff]
    exact Option.isSome_of_eq_some hline
  · intro other hother line hmem hinfix
    have hsome := Line.find?_isSome_iff.mpr ⟨line, hmem, hinfix⟩
    rw [hearlier other hother] at hsome
    cases hsome
  · rw [report, hwarning]
    split <;> rfl

/-- A template that lands on the setup file: the patch is that of the text before the run, and it
is what the file holds in the end. -/
theorem run_over_setup_file :
    let setup : Path := ⟨"/work/actions/app.go"⟩
    let store := Store.empty.withFile setup "if app == nil \x7b\n\x7d\n".toUTF8
    let templates : List Draft :=
      [⟨⟨⟨"actions/auth.go"⟩, rfl⟩, "package actions\n".toUTF8⟩,
        ⟨⟨⟨"actions/app.go"⟩, rfl⟩, "package actions\n".toUTF8⟩]
    let request : Request := ⟨⟨"/work"⟩, .ofRoot ⟨"/work"⟩, .empty, false⟩
    let outcome :=
      (run ofStore (.listing "two templates" (.ok templates)) (fun _ source _ => .ok source)
        (Recipe.auth "migrations") request ⟨"20250102030405"⟩).run store
    outcome.1 = .ok
      ⟨"auth", ⟨"20250102030405"⟩, ["actions/auth.go", "actions/app.go"], "actions/app.go",
        "if app == nil \x7b",
        [⟨"actions/app.go", "if app == nil \x7b", Recipe.Auth.legacyAnchor.note⟩], false⟩ ∧
    ∃ patch, Recipe.Auth.setupPatch.apply "if app == nil \x7b\n\x7d\n" = .ok patch ∧
      outcome.2.bytes? setup = some patch.content.toUTF8 := by
  intro setup store templates request outcome
  have hrun : outcome.1 = .ok
      ⟨"auth", ⟨"20250102030405"⟩, ["actions/auth.go", "actions/app.go"], "actions/app.go",
        "if app == nil \x7b",
        [⟨"actions/app.go", "if app == nil \x7b", Recipe.Auth.legacyAnchor.note⟩], false⟩ := by
    decide +kernel
  obtain ⟨-, drafts, text, patch, -, -, hread, hpatch, -, hbytes, -⟩ :=
    run_success_effect _ _ _ _ _ _ _ _ rfl hrun
  have hplace : request.root.join ⟨(Recipe.auth "migrations").patch.target⟩ = setup := by
    decide +kernel
  have htext : store.readText setup = .ok "if app == nil \x7b\n\x7d\n" := by
    decide +kernel
  rw [hplace, htext] at hread
  obtain rfl := Except.ok.inj hread
  refine ⟨hrun, patch, hpatch, ?_⟩
  have hlast : setup.same setup = true := Path.same_iff.mpr rfl
  rw [hbytes, hplace, List.reverse_append, List.reverse_singleton, List.singleton_append,
    List.find?_cons, hlast]
  rfl

end Scaffold.Run
