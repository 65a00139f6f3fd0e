import Scaffold.Proofs.Bundled.Outputs
import Scaffold.Proofs.Patch.Anchors
import Scaffold.Proofs.Run.AllOrNothing
/-!
# When the generator succeeds

When the authentication generator succeeds. Its bundled templates always become files, so only the
directory for the migration and the setup file of the application decide.
-/

namespace Scaffold.Run

open Filesystem Text

theorem exists_setupPatch_apply_eq_ok_iff {text : String} :
    (∃ patch, Recipe.Auth.setupPatch.apply text = .ok patch) ↔
      "appOnce.Do(func() \x7b".toList <:+: text.toList ∨
        "if app == nil \x7b".toList <:+: text.toList := by
  rw [Patch.exists_apply_eq_ok_iff,
    Line.infix_iff_exists_line (by decide) (by decide),
    Line.infix_iff_exists_line (by decide) (by decide)]
  change (∃ anchor ∈ [Recipe.Auth.currentAnchor, Recipe.Auth.legacyAnchor], _) ↔ _
  simp only [List.mem_cons, List.not_mem_nil, or_false, exists_eq_or_imp, exists_eq_left,
    Recipe.Auth.currentAnchor, Recipe.Auth.legacyAnchor]

/-- The generator succeeds exactly when the directory for the migration is relative, slashes at its
end left aside, and the setup file is text that holds one of the two anchors. -/
theorem run_auth_succeeds_iff {store : Store} (h : store.Reachable) (directory : String)
    (request : Request) (t : Instant) :
    (∃ report, ((run ofStore TemplateSource.auth renderTemplate (Recipe.auth directory) request
        t.stamp).run store).1 = .ok report) ↔
      (dropEndWhile (· = '/') directory.toList).head? ≠ some '/' ∧
      ∃ content text, store.bytes? (request.root.join ⟨"actions/app.go"⟩) = some content ∧
        String.fromUTF8? content = some text ∧
        ("appOnce.Do(func() \x7b".toList <:+: text.toList ∨
          "if app == nil \x7b".toList <:+: text.toList) := by
  have hiff := exists_run_eq_ok_iff h "embedded:auth" (Draft.ofFiles (Bundled.auth.collect []))
    renderTemplate (Recipe.auth directory) request t.stamp
  refine hiff.trans ?_
  rw [Bundled.ofFiles_auth]
  constructor
  · rintro ⟨_, drafts, text, patch, hlisted, hdrafts, hread, hpatch⟩
    obtain rfl := Except.ok.inj hlisted
    obtain ⟨content, hbytes, htext⟩ := Store.readText_eq_ok_iff.mp hread
    exact ⟨(isAbsolute_stampedPath _ _ _).mp (Bundled.not_absolute_of_outputs_eq_ok hdrafts),
      content, text, hbytes, htext, exists_setupPatch_apply_eq_ok_iff.mp ⟨patch, hpatch⟩⟩
  · rintro ⟨hdirectory, content, text, hbytes, htext, hanchor⟩
    obtain ⟨patch, hpatch⟩ := exists_setupPatch_apply_eq_ok_iff.mpr hanchor
    obtain ⟨form, hdrafts⟩ := @Bundled.outputs_auth directory request t.stamp
      ((isAbsolute_stampedPath _ _ _).mpr hdirectory)
    exact ⟨_, _, text, patch, rfl, hdrafts, Store.readText_eq_ok_iff.mpr ⟨content, hbytes, htext⟩,
      hpatch⟩

/-- An old application: the generator succeeds with a relative directory, and fails with an absolute
one. -/
theorem run_auth_on_old_application :
    let store := Store.empty.withFile ⟨"/work/actions/app.go"⟩ "if app == nil \x7b\n\x7d\n".toUTF8
    let request : Request := ⟨⟨"/work"⟩, .ofRoot ⟨"/work"⟩, ⟨[⟨"age", "int?", false⟩]⟩, false⟩
    let t : Instant := ⟨0, by decide⟩
    (∃ report, ((run ofStore TemplateSource.auth renderTemplate (Recipe.auth "db/migrations//")
      request t.stamp).run store).1 = .ok report) ∧
    ¬ ∃ report, ((run ofStore TemplateSource.auth renderTemplate (Recipe.auth "/migrations")
      request t.stamp).run store).1 = .ok report := by
  intro store request t
  have hstore : store.Reachable := .withFile _ _ .empty
  constructor
  · refine (run_auth_succeeds_iff hstore _ _ _).mpr ⟨by decide,
      "if app == nil \x7b\n\x7d\n".toUTF8, "if app == nil \x7b\n\x7d\n", by decide,
      by decide, .inr (by decide)⟩
  · intro hrun
    have hdirectory := ((run_auth_succeeds_iff hstore _ _ _).mp hrun).1
    exact hdirectory (by decide)

end Scaffold.Run
