import Scaffold.Filesystem.Store
import Scaffold.Proofs.Filesystem.Tree
import Scaffold.Recipe.Auth
import Scaffold.Run
/-!
# The order of templates

Templates given in any order. A source lists templates of different paths in the one increasing
order they have, so a run cannot tell in which order they were supplied.
-/

namespace Scaffold.Run

open Filesystem

theorem ofDrafts_eq_of_sort_eq {m : Type → Type} [Monad m] {given others : List Draft}
    (hlength : given.length = others.length) (hsort : Draft.sort given = Draft.sort others) :
    (TemplateSource.ofDrafts given : TemplateSource m) = .ofDrafts others := by
  rw [TemplateSource.ofDrafts, TemplateSource.ofDrafts, hlength, hsort]

/-- However templates of different paths are permuted, they are listed in strictly increasing order,
none lost and none twice, and a run on any files has the same effects and the same result. -/
theorem template_order_is_irrelevant (given others : List Draft) (hperm : given.Perm others)
    (hdistinct : (given.map (·.path.path.components)).Nodup) :
    ∃ listed : List Draft,
      listed.Perm given ∧
      (listed.Pairwise fun a b => a.path.compare b.path = .lt) ∧
      ∀ (m : Type → Type) [Monad m],
        (TemplateSource.ofDrafts given : TemplateSource m).drafts = pure (.ok listed) ∧
        (TemplateSource.ofDrafts others : TemplateSource m).drafts = pure (.ok listed) ∧
        ∀ (files : Filesystem m) (render : Renderer) (recipe : Recipe) (request : Request)
          (stamp : Stamp),
          run files (.ofDrafts given) render recipe request stamp =
            run files (.ofDrafts others) render recipe request stamp := by
  have hsort := Draft.sort_eq_of_perm hdistinct hperm
  refine ⟨Draft.sort given, Draft.sort_perm given, Draft.pairwise_lt_sort hdistinct,
    fun m _ => ⟨rfl, ?_, ?_⟩⟩
  · rw [hsort]
    rfl
  · intro files render recipe request stamp
    rw [ofDrafts_eq_of_sort_eq hperm.length_eq hsort]

/-- Two templates supplied in either order, one of them under an unusual spelling of its path. -/
theorem template_order_of_two :
    let store := Store.empty.withFile ⟨"/work/actions/app.go"⟩ "if app == nil \x7b\n\x7d\n".toUTF8
    let page : Draft := ⟨⟨⟨"auth//new.html"⟩, rfl⟩, "<form></form>\n".toUTF8⟩
    let action : Draft := ⟨⟨⟨"actions/./auth.go"⟩, rfl⟩, "package actions\n".toUTF8⟩
    let request : Request := ⟨⟨"/work"⟩, .ofRoot ⟨"/work"⟩, .empty, false⟩
    let outcome (given : List Draft) :=
      (run ofStore (.ofDrafts given) (fun _ source _ => .ok source) (Recipe.auth "migrations")
        request ⟨"20250102030405"⟩).run store
    outcome [page, action] = outcome [action, page] ∧
    (outcome [action, page]).1 = .ok
      ⟨"auth", ⟨"20250102030405"⟩, ["actions/auth.go", "auth/new.plush.html"], "actions/app.go",
        "if app == nil \x7b",
        [⟨"actions/app.go", "if app == nil \x7b", Recipe.Auth.legacyAnchor.note⟩], false⟩ := by
  intro store page action request outcome
  have hperm : [page, action].Perm [action, page] := .swap ..
  have hdistinct : ([page, action].map (·.path.path.components)).Nodup := by decide +kernel
  obtain ⟨listed, -, -, hrun⟩ := template_order_is_irrelevant _ _ hperm hdistinct
  obtain ⟨-, -, hsame⟩ := hrun (StateM Store)
  have hlisted : Draft.sort [action, page] = [action, page] :=
    Draft.sort_of_pairwise (by decide +kernel)
  have hsource : (TemplateSource.ofDrafts [action, page] : TemplateSource (StateM Store)) =
      ⟨"memory:" ++ toString [action, page].length ++ " files", pure (.ok [action, page])⟩ := by
    rw [TemplateSource.ofDrafts, hlisted]
  refine ⟨congrFun (hsame _ _ _ _ _) store, ?_⟩
  change ((run ofStore (.ofDrafts [action, page]) _ _ _ _).run store).1 = _
  rw [hsource]
  decide +kernel

end Scaffold.Run
