import Scaffold.Proofs.Run.OnStore
import Scaffold.Recipe.Auth
/-!
# All changes or none

A run on a store changes all files it is meant to change, or none. Once the first file is about to
be written nothing can fail: a generated file has its directories made first, and the directory of
a setup file that was read is there.
-/

namespace Scaffold.Run

open Filesystem

theorem isWritable_setupPath_of_preparedIn {render : Renderer} {recipe : Recipe}
    {request : Request} {stamp : Stamp} {listed : Except Failure (List Draft)} {store : Store}
    (h : store.Reachable) {drafts : List Draft} {patch : Patch.Outcome}
    (hprepared : preparedIn render recipe request stamp listed store = .ok (drafts, patch)) :
    store.isWritable (setupPath recipe request.root) = true := by
  obtain ⟨_, text, -, -, hread, -⟩ :=
    (preparedIn_eq_ok_iff render recipe request stamp).mp hprepared
  obtain ⟨content, hbytes, -⟩ := Store.readText_eq_ok_iff.mp hread
  exact h.rewritable.isWritable_of_bytes? hbytes

/-- What a run on a store that the operations have built comes to: it fails without a change, or it
reports success, and then all files are written unless it is dry. -/
theorem run_run_of_reachable {store : Store} (h : store.Reachable) (describe : String)
    (listed : Except Failure (List Draft)) (render : Renderer) (recipe : Recipe)
    (request : Request) (stamp : Stamp) :
    (run ofStore (.listing describe listed) render recipe request stamp).run store =
      match preparedIn render recipe request stamp listed store with
      | .error failure => (.error failure, store)
      | .ok (drafts, patch) =>
        (.ok (report recipe request stamp drafts patch),
          if request.dryRun then store
          else (generate request.root store drafts).put (setupPath recipe request.root)
            patch.content.toUTF8) := by
  rw [run_run_ofStore]
  cases hprepared : preparedIn render recipe request stamp listed store with
  | error failure => rfl
  | ok prepared =>
      obtain ⟨drafts, patch⟩ := prepared
      have hwritable := isWritable_setupPath_of_preparedIn h hprepared
      dsimp only
      rw [run_finish, run_performAll_plan_of_isWritable recipe hwritable]
      split <;> rfl

theorem reachable_generate {store : Store} (h : store.Reachable) (root : Path)
    (drafts : List Draft) : (generate root store drafts).Reachable := by
  induction drafts generalizing store with
  | nil => exact h
  | cons draft drafts ih => exact ih (h.withFile (placeOf root draft) draft.content)

theorem reachable_run {store : Store} (h : store.Reachable) (describe : String)
    (listed : Except Failure (List Draft)) (render : Renderer) (recipe : Recipe)
    (request : Request) (stamp : Stamp) :
    ((run ofStore (.listing describe listed) render recipe request stamp).run store).2.Reachable := by
  rw [run_run_ofStore]
  cases preparedIn render recipe request stamp listed store with
  | error failure => exact h
  | ok prepared =>
      obtain ⟨drafts, patch⟩ := prepared
      dsimp only
      rw [run_finish, run_performAll_plan]
      have hwritten := (reachable_generate h request.root drafts).write
        (setupPath recipe request.root) patch.content.toUTF8
      cases hwrite : (generate request.root store drafts).write (setupPath recipe request.root)
        patch.content.toUTF8 with
      | mk result after =>
          rw [hwrite] at hwritten
          split
          · exact h
          · cases result <;> exact hwritten

theorem exists_run_eq_ok_iff {store : Store} (h : store.Reachable) (describe : String)
    (listed : Except Failure (List Draft)) (render : Renderer) (recipe : Recipe)
    (request : Request) (stamp : Stamp) :
    (∃ report, ((run ofStore (.listing describe listed) render recipe request stamp).run store).1 =
        .ok report) ↔
      ∃ templates drafts text patch, listed = .ok templates ∧
        outputs recipe render request stamp templates = .ok drafts ∧
        store.readText (setupPath recipe request.root) = .ok text ∧
        recipe.patch.apply text = .ok patch := by
  rw [run_run_of_reachable h]
  constructor
  · rintro ⟨outcome, hrun⟩
    cases hprepared : preparedIn render recipe request stamp listed store with
    | error failure => simp [hprepared] at hrun
    | ok prepared =>
        obtain ⟨drafts, patch⟩ := prepared
        obtain ⟨templates, text, hlisted, hdrafts, hread, hpatch⟩ :=
          (preparedIn_eq_ok_iff render recipe request stamp).mp hprepared
        exact ⟨templates, drafts, text, patch, hlisted, hdrafts, hread, hpatch⟩
  · rintro ⟨templates, drafts, text, patch, hlisted, hdrafts, hread, hpatch⟩
    have hprepared := (preparedIn_eq_ok_iff render recipe request stamp).mpr
      ⟨templates, text, hlisted, hdrafts, hread, hpatch⟩
    rw [hprepared]
    exact ⟨_, rfl⟩

/-- A run that fails leaves files and directories as they were, because its changes, once they
begin, all succeed. -/
theorem run_changes_all_or_nothing {store : Store} (h : store.Reachable) (describe : String)
    (listed : Except Failure (List Draft)) (render : Renderer) (recipe : Recipe)
    (request : Request) (stamp : Stamp) :
    let source : TemplateSource (StateM Store) := .listing describe listed
    let outcome := (run ofStore source render recipe request stamp).run store
    (∀ failure, outcome.1 = .error failure →
      outcome.2.files = store.files ∧ outcome.2.directories = store.directories) ∧
    (∀ drafts patch,
      ((prepare ofStore source render recipe request stamp).run store).1 = .ok (drafts, patch) →
      ((ofStore.performAll (plan recipe request.root drafts patch.content)).run store).1 = .ok ()) ∧
    (∀ (other : Store) (path parent : Path) (content : ByteArray), path.parent? = some parent →
      ((other.createDirs parent).write path content).1 = .ok ()) ∧
    ∀ (path : Path) (text : String) (content : ByteArray), store.readText path = .ok text →
      (store.write path content).1 = .ok () := by
  intro source outcome
  refine ⟨?_, ?_, ?_, ?_⟩
  · intro failure hfailure
    have hrun : outcome = _ :=
      run_run_of_reachable h describe listed render recipe request stamp
    cases hprepared : preparedIn render recipe request stamp listed store with
    | error cause => simp [hrun, hprepared]
    | ok prepared => simp [hrun, hprepared] at hfailure
  · intro drafts patch hprepared
    rw [run_prepare_ofStore] at hprepared
    rw [run_performAll_plan_of_isWritable recipe (isWritable_setupPath_of_preparedIn h hprepared)]
  · intro other path parent content hparent
    rw [Store.write, if_pos (Store.isWritable_createDirs hparent other)]
  · intro path text content hread
    obtain ⟨old, hbytes, -⟩ := Store.readText_eq_ok_iff.mp hread
    rw [Store.write, if_pos (h.rewritable.isWritable_of_bytes? hbytes)]

/-- A setup file without an anchor: the run fails after all templates went through the stages. -/
theorem run_without_anchor_changes_nothing :
    let store := Store.empty.withFile ⟨"/work/shop/actions/app.go"⟩ "package actions\n".toUTF8
    let templates : List Draft := [⟨⟨⟨"actions/auth.go"⟩, rfl⟩, "package actions\n".toUTF8⟩]
    let request : Request := ⟨⟨"/work/shop"⟩, .ofRoot ⟨"/work/shop"⟩, .empty, false⟩
    let outcome :=
      (run ofStore (.listing "one template" (.ok templates)) (fun _ source _ => .ok source)
        (Recipe.auth "migrations") request ⟨"20250102030405"⟩).run store
    store.Reachable ∧
    outcome.1 =
      .error (.anchorNotFound "actions/app.go" ["appOnce.Do(func() \x7b", "if app == nil \x7b"]) ∧
    outcome.2.files = store.files ∧ outcome.2.directories = store.directories := by
  refine ⟨.withFile _ _ .empty, by decide +kernel, ?_⟩
  exact (run_changes_all_or_nothing (.withFile _ _ .empty) _ _ _ _ _ _).1
    (.anchorNotFound "actions/app.go" ["appOnce.Do(func() \x7b", "if app == nil \x7b"])
    (by decide +kernel)

end Scaffold.Run
