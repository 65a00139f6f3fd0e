import Scaffold.Proofs.Run.AllOrNothing
import Scaffold.Recipe.Auth
/-!
# Dry runs

A dry run beside the run that writes. Both prepare the same files and the same patch, and writing
them can neither fail nor show in the report, so the one foretells the other.
-/

namespace Scaffold.Run

open Filesystem

/-- What a run prepares does not depend on whether it will write. -/
theorem preparedIn_dryRun (render : Renderer) (recipe : Recipe) (request : Request) (stamp : Stamp)
    (listed : Except Failure (List Draft)) (store : Store) (dryRun : Bool) :
    preparedIn render recipe { request with dryRun := dryRun } stamp listed store =
      preparedIn render recipe request stamp listed store := rfl

theorem report_dryRun (recipe : Recipe) (request : Request) (stamp : Stamp) (drafts : List Draft)
    (patch : Patch.Outcome) (dryRun : Bool) :
    report recipe { request with dryRun := dryRun } stamp drafts patch =
      { report recipe request stamp drafts patch with dryRun := dryRun } := rfl

/-- A dry run changes nothing. It succeeds exactly when the same run that writes succeeds, with the
same report but for the note that it was dry, and it fails with the same failure. -/
theorem dry_run_foretells_run {store : Store} (h : store.Reachable) (describe : String)
    (listed : Except Failure (List Draft)) (render : Renderer) (recipe : Recipe)
    (request : Request) (stamp : Stamp) :
    let source : TemplateSource (StateM Store) := .listing describe listed
    let dry := (run ofStore source render recipe { request with dryRun := true } stamp).run store
    let wet := (run ofStore source render recipe { request with dryRun := false } stamp).run store
    (dry.2.files = store.files ∧ dry.2.directories = store.directories) ∧
    ((∃ outcome, dry.1 = .ok outcome) ↔ ∃ outcome, wet.1 = .ok outcome) ∧
    (∀ foretold outcome, dry.1 = .ok foretold → wet.1 = .ok outcome →
      foretold.dryRun = true ∧ outcome.dryRun = false ∧
      { foretold with dryRun := false } = outcome) ∧
    ∀ foretold failure, dry.1 = .error foretold → wet.1 = .error failure → foretold = failure := by
  intro source dry wet
  have hdry : dry = _ := run_run_of_reachable h describe listed render recipe _ stamp
  have hwet : wet = _ := run_run_of_reachable h describe listed render recipe _ stamp
  rw [preparedIn_dryRun] at hdry hwet
  cases hprepared : preparedIn render recipe request stamp listed store with
  | error failure =>
      rw [hprepared] at hdry hwet
      rw [hdry, hwet]
      refine ⟨⟨rfl, rfl⟩, by simp, by simp, ?_⟩
      intro foretold cause hforetold hcause
      exact Except.error.inj (hforetold.symm.trans hcause)
  | ok prepared =>
      obtain ⟨drafts, patch⟩ := prepared
      rw [hprepared] at hdry hwet
      dsimp only at hdry hwet
      rw [hdry, hwet]
      refine ⟨⟨rfl, rfl⟩, ⟨fun _ => ⟨_, rfl⟩, fun _ => ⟨_, rfl⟩⟩, ?_, by simp⟩
      intro foretold outcome hforetold houtcome
      rw [report_dryRun] at hforetold houtcome
      obtain rfl := Except.ok.inj hforetold
      obtain rfl := Except.ok.inj houtcome
      exact ⟨rfl, rfl, rfl⟩

/-- A dry run on an old application, and what it says of the run that writes. -/
theorem dry_run_on_old_application :
    let store := Store.empty.withFile ⟨"/work/actions/app.go"⟩ "if app == nil \x7b\n\x7d\n".toUTF8
    let source : TemplateSource (StateM Store) :=
      .listing "one template" (.ok [⟨⟨⟨"views/new.html"⟩, rfl⟩, "<h1>\n".toUTF8⟩])
    let request : Request := ⟨⟨"/work"⟩, .ofRoot ⟨"/work"⟩, .empty, true⟩
    let outcome (dryRun : Bool) : Report :=
      ⟨"auth", ⟨"20250102030405"⟩, ["views/new.plush.html"], "actions/app.go",
        "if app == nil \x7b",
        [⟨"actions/app.go", "if app == nil \x7b", Recipe.Auth.legacyAnchor.note⟩], dryRun⟩
    let dry := (run ofStore source (fun _ source _ => .ok source) (Recipe.auth "migrations") request
      ⟨"20250102030405"⟩).run store
    let wet := (run ofStore source (fun _ source _ => .ok source) (Recipe.auth "migrations")
      { request with dryRun := false } ⟨"20250102030405"⟩).run store
    store.Reachable ∧ dry.1 = .ok (outcome true) ∧ dry.2.files = store.files ∧
      wet.1 = .ok (outcome false) := by
  intro store source request outcome dry wet
  have hstore : store.Reachable := .withFile _ _ .empty
  have hdry : dry.1 = .ok (outcome true) := by decide +kernel
  obtain ⟨⟨hfiles, -⟩, hiff, hreport, -⟩ := dry_run_foretells_run hstore "one template"
    (.ok [⟨⟨⟨"views/new.html"⟩, rfl⟩, "<h1>\n".toUTF8⟩]) (fun _ source _ => .ok source)
    (Recipe.auth "migrations") request ⟨"20250102030405"⟩
  obtain ⟨written, hwritten⟩ := hiff.mp ⟨_, hdry⟩
  obtain ⟨-, -, hsame⟩ := hreport _ _ hdry hwritten
  exact ⟨hstore, hdry, hfiles, hwritten.trans (congrArg Except.ok hsame.symm)⟩

end Scaffold.Run
