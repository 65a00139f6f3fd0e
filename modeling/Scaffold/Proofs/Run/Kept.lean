import Scaffold.Proofs.Filesystem.Tree
import Scaffold.Proofs.Patch.Insertion
import Scaffold.Proofs.Recipe.Destination
import Scaffold.Proofs.Run.AllOrNothing
import Scaffold.Proofs.Run.Effect
import Scaffold.Templates
/-!
# Files that are kept

Which generated files are still there after a run of the authentication generator. A file is lost to
a later one that lands on its path, or to the patched setup file, and to nothing else.
-/

namespace Scaffold.Run

open Filesystem Recipe.Auth

theorem ofDrafts_eq_listing {given : List Draft} (h : Draft.sort given = given) :
    (TemplateSource.ofDrafts given : TemplateSource (StateM Store)) =
      .listing ("memory:" ++ toString given.length ++ " files") (.ok given) := by
  rw [TemplateSource.ofDrafts, h]
  rfl

theorem eq_of_map_eq_ok {ε α β : Type} {x : Except ε α} {f : α → β} {a : α} {b : β}
    (h : x = .ok a) (hmap : x.map f = .ok b) : f a = b := by
  rw [h] at hmap
  exact Except.ok.inj hmap

theorem toUTF8_injective {s t : String} (h : s.toUTF8 = t.toUTF8) : s = t :=
  String.toByteArray_inj.mp h

/-- Where the paths of all templates are texts, two generated files land on one path exactly when
their templates meet, and one lands on the setup file exactly when its template is at that path. A
template that meets no other one becomes a file of its own in the report, and unless it is at the path
of the setup file, the bytes that the stages made of it are there after the run. -/
theorem run_auth_keeps_what_does_not_meet (store : Store) (given : List Draft)
    (directory : String) (render : Renderer) (request : Request) (t : Instant) (outcome : Report)
    (htext : ∀ template ∈ given, template.path.path.IsText) (hwet : request.dryRun = false)
    (hrun : ((run ofStore (.ofDrafts given) render (Recipe.auth directory) request
      t.stamp).run store).1 = .ok outcome) :
    let templates := Draft.sort given
    let setup := request.root.join ⟨"actions/app.go"⟩
    let after := ((run ofStore (.ofDrafts given) render (Recipe.auth directory) request
      t.stamp).run store).2
    ∃ drafts : List Draft,
      List.Forall₂
        (fun template draft =>
          Stage.applyAll ((Recipe.auth directory).stages render
            ⟨request.project, request.attributes⟩ t.stamp) template = .ok draft)
        templates drafts ∧
      outcome.written = drafts.map (·.path.toSlash) ∧
      (∀ (i j : Nat) (a b c d : Draft), templates[i]? = some a → templates[j]? = some b →
        drafts[i]? = some c → drafts[j]? = some d →
        ((request.root.join c.path.path).components = (request.root.join d.path.path).components ↔
          Meet request.root a b)) ∧
      (∀ (i : Nat) (a c : Draft), templates[i]? = some a → drafts[i]? = some c →
        ((request.root.join c.path.path).components = setup.components ↔
          (request.root.join a.path.path).components = setup.components)) ∧
      ∀ (i : Nat) (a c : Draft), templates[i]? = some a → drafts[i]? = some c →
        (∀ j b, j ≠ i → templates[j]? = some b → ¬ Meet request.root a b) →
        ∃ path, outcome.written[i]? = some path ∧
          (∀ j, j ≠ i → outcome.written[j]? ≠ some path) ∧
          ((request.root.join a.path.path).components ≠ setup.components →
            after.bytes? (request.root.join ⟨path⟩) = some c.content) := by
  obtain ⟨drafts, patch, hprepared, rfl, hafter⟩ := exists_of_run_eq_ok hwet hrun
  obtain ⟨_, text, hlisted, hdrafts, -, -⟩ := (preparedIn_eq_ok_iff _ _ _ _).mp hprepared
  obtain rfl := Except.ok.inj hlisted
  intro templates setup after
  have hgenerated := (outputs_eq_ok_iff _ _ _ _).mp hdrafts
  have htemplate {i : Nat} {a : Draft} (ha : templates[i]? = some a) : a.path.path.IsText :=
    htext a ((Draft.sort_perm given).mem_iff.mp (List.mem_of_getElem? ha))
  have hout {i : Nat} {c : Draft} (hc : drafts[i]? = some c) : c.path.path.IsText := by
    obtain ⟨hlength, -⟩ := List.getElem?_eq_some_iff.mp hc
    rw [← hgenerated.length_eq] at hlength
    have ha := List.getElem?_eq_getElem hlength
    exact Stage.isText_of_applyAll (applyAll_of_outputs_eq_ok hdrafts ha hc) (htemplate ha)
  have hmeet (i j : Nat) (a b c d : Draft) (ha : templates[i]? = some a)
      (hb : templates[j]? = some b) (hc : drafts[i]? = some c) (hd : drafts[j]? = some d) :
      (request.root.join c.path.path).components = (request.root.join d.path.path).components ↔
        Meet request.root a b :=
    join_eq_iff_meet (applyAll_of_outputs_eq_ok hdrafts ha hc)
      (applyAll_of_outputs_eq_ok hdrafts hb hd) (htemplate ha) (htemplate hb) request.root
  have hsetup (i : Nat) (a c : Draft) (ha : templates[i]? = some a) (hc : drafts[i]? = some c) :
      (request.root.join c.path.path).components = setup.components ↔
        (request.root.join a.path.path).components = setup.components :=
    join_eq_setupPath_iff (applyAll_of_outputs_eq_ok hdrafts ha hc) (htemplate ha) request.root
  refine ⟨drafts, hgenerated, rfl, hmeet, hsetup, ?_⟩
  intro i a c ha hc hapart
  -- a draft elsewhere in the list comes from a template elsewhere in the list
  have hother (j : Nat) (d : Draft) (hj : j ≠ i) (hd : drafts[j]? = some d) :
      (placeOf request.root d).components ≠ (placeOf request.root c).components := by
    obtain ⟨hlength, -⟩ := List.getElem?_eq_some_iff.mp hd
    rw [← hgenerated.length_eq] at hlength
    have hb : templates[j]? = some templates[j] := List.getElem?_eq_getElem hlength
    intro heq
    exact hapart j _ hj hb ((hmeet i j _ _ _ _ ha hb hc hd).mp heq.symm)
  refine ⟨c.path.toSlash, by simp [report, hc], ?_, ?_⟩
  · intro j hj hwritten
    simp only [report, List.getElem?_map, Option.map_eq_some_iff] at hwritten
    obtain ⟨d, hd, heq⟩ := hwritten
    apply hother j d hj hd
    rw [placeOf, placeOf, ← Draft.components_join_toSlash (hout hc),
      ← Draft.components_join_toSlash (hout hd), heq]
  · intro hfree
    rw [show after = _ from hafter,
      Store.bytes?_congr (Draft.components_join_toSlash (hout hc) request.root)]
    exact bytes?_put_generate_of_getElem? hc (fun j d hj => hother j d (Nat.ne_of_gt hj))
      (fun heq => hfree ((hsetup i a c ha hc).mp heq.symm)) store _

/-- Two templates, of which only the migration moves; both are there after the run. -/
theorem run_auth_keeps_migration_and_model :
    let store := Store.empty.withFile ⟨"/work/shop/actions/app.go"⟩
      "if app == nil \x7b\n\x7d\n".toUTF8
    let given : List Draft :=
      [⟨⟨⟨"db/users.fizz"⟩, rfl⟩, "drop_table(\"users\")\n".toUTF8⟩,
        ⟨⟨⟨"models/user.go"⟩, rfl⟩, "package models\n".toUTF8⟩]
    let request : Request := ⟨⟨"/work/shop"⟩, .ofRoot ⟨"/work/shop"⟩, .empty, false⟩
    let t : Instant := ⟨0, by decide⟩
    let outcome := (run ofStore (.ofDrafts given) (fun _ source _ => .ok source)
      (Recipe.auth "migrations") request t.stamp).run store
    outcome.1 = .ok
      ⟨"auth", t.stamp, ["migrations/19700101000000_users.fizz", "models/user.go"],
        "actions/app.go", "if app == nil \x7b",
        [⟨"actions/app.go", "if app == nil \x7b", legacyAnchor.note⟩], false⟩ ∧
    outcome.2.bytes? (request.root.join ⟨"migrations/19700101000000_users.fizz"⟩) =
      some "drop_table(\"users\")\n".toUTF8 ∧
    outcome.2.bytes? (request.root.join ⟨"models/user.go"⟩) = some "package models\n".toUTF8 := by
  intro store given request t outcome
  have hstore : store.Reachable := .withFile _ _ .empty
  have hsort : Draft.sort given = given := Draft.sort_of_pairwise (by decide +kernel)
  have hrun : outcome.1 = .ok
      ⟨"auth", t.stamp, ["migrations/19700101000000_users.fizz", "models/user.go"],
        "actions/app.go", "if app == nil \x7b",
        [⟨"actions/app.go", "if app == nil \x7b", legacyAnchor.note⟩], false⟩ := by
    simp only [outcome, ofDrafts_eq_listing hsort, run_run_of_reachable hstore]
    decide +kernel
  have htext : ∀ template ∈ given, template.path.path.IsText :=
    List.forall_mem_cons.mpr
      ⟨Path.isText_ofString _, List.forall_mem_singleton.mpr (Path.isText_ofString _)⟩
  obtain ⟨drafts, hdrafts, -, -, -, hkept⟩ :=
    run_auth_keeps_what_does_not_meet store given "migrations" (fun _ source _ => .ok source)
      request t _ htext rfl hrun
  rw [hsort] at hdrafts hkept
  obtain ⟨migration, model, rfl⟩ := List.length_eq_two.mp hdrafts.length_eq.symm
  have hapart (i : Nat) (a : Draft) (ha : given[i]? = some a) (j : Nat) (b : Draft) (hj : j ≠ i)
      (hb : given[j]? = some b) : ¬ Meet request.root a b := by
    have hi : i < 2 := (List.getElem?_eq_some_iff.mp ha).1
    have hj' : j < 2 := (List.getElem?_eq_some_iff.mp hb).1
    obtain ⟨rfl, rfl⟩ | ⟨rfl, rfl⟩ : i = 0 ∧ j = 1 ∨ i = 1 ∧ j = 0 := by omega
    all_goals
      obtain rfl := Option.some.inj ha
      obtain rfl := Option.some.inj hb
      decide +kernel
  obtain ⟨_, hfirst, -, hmigration⟩ := hkept 0 _ migration rfl rfl (hapart 0 _ rfl)
  obtain ⟨_, hsecond, -, hmodel⟩ := hkept 1 _ model rfl rfl (hapart 1 _ rfl)
  obtain rfl := Option.some.inj hfirst
  obtain rfl := Option.some.inj hsecond
  obtain ⟨hmoved, hrest⟩ := List.forall₂_cons.mp hdrafts
  obtain ⟨hstayed, -⟩ := List.forall₂_cons.mp hrest
  have hmoved : migration.content = "drop_table(\"users\")\n".toUTF8 :=
    eq_of_map_eq_ok hmoved (by decide +kernel)
  have hstayed : model.content = "package models\n".toUTF8 :=
    eq_of_map_eq_ok hstayed (by decide +kernel)
  rw [← hmoved, ← hstayed]
  exact ⟨hrun, hmigration (by decide +kernel), hmodel (by decide +kernel)⟩

/-- Five templates with five paths, of which three are lost: one is in the file of another one, one
is a migration of the same name as another one, and one is at the path of the setup file. -/
theorem run_auth_loses_files :
    let store := Store.empty.withFile ⟨"/work/shop/actions/app.go"⟩
      "if app == nil \x7b\n\x7d\n".toUTF8
    let given : List Draft :=
      [⟨⟨⟨"./models/user.go"⟩, rfl⟩, "package here\n".toUTF8⟩,
        ⟨⟨⟨"a/users.fizz"⟩, rfl⟩, "drop_table(\"a\")\n".toUTF8⟩,
        ⟨⟨⟨"actions/app.go"⟩, rfl⟩, "package actions\n".toUTF8⟩,
        ⟨⟨⟨"b/users.fizz"⟩, rfl⟩, "drop_table(\"b\")\n".toUTF8⟩,
        ⟨⟨⟨"models/user.go"⟩, rfl⟩, "package models\n".toUTF8⟩]
    let render : Renderer := fun _ source _ => .ok source
    let request : Request := ⟨⟨"/work/shop"⟩, .ofRoot ⟨"/work/shop"⟩, .empty, false⟩
    let t : Instant := ⟨0, by decide⟩
    let outcome := (run ofStore (.ofDrafts given) render (Recipe.auth "migrations") request
      t.stamp).run store
    let written := ["./models/user.go", "migrations/19700101000000_users.fizz", "actions/app.go",
      "migrations/19700101000000_users.fizz", "models/user.go"]
    let contents := given.map (·.content)
    (given.map (·.path.path.components)).Nodup ∧
    outcome.1 = .ok
      ⟨"auth", t.stamp, written, "actions/app.go", "if app == nil \x7b",
        [⟨"actions/app.go", "if app == nil \x7b", legacyAnchor.note⟩], false⟩ ∧
    ¬ written.Nodup ∧
    (outputs (Recipe.auth "migrations") render request t.stamp (Draft.sort given)).map
      (·.map (·.content)) = .ok contents ∧
    outcome.2.bytes? (request.root.join ⟨"./models/user.go"⟩) = some "package models\n".toUTF8 ∧
    outcome.2.bytes? (request.root.join ⟨"migrations/19700101000000_users.fizz"⟩) =
      some "drop_table(\"b\")\n".toUTF8 ∧
    outcome.2.bytes? (request.root.join ⟨"actions/app.go"⟩) ≠ some "package actions\n".toUTF8 := by
  intro store given render request t outcome written contents
  have hstore : store.Reachable := .withFile _ _ .empty
  have hsort : Draft.sort given = given := Draft.sort_of_pairwise (by decide +kernel)
  have hrun : outcome.1 = .ok
      ⟨"auth", t.stamp, written, "actions/app.go", "if app == nil \x7b",
        [⟨"actions/app.go", "if app == nil \x7b", legacyAnchor.note⟩], false⟩ := by
    simp only [outcome, ofDrafts_eq_listing hsort, run_run_of_reachable hstore]
    decide +kernel
  have hcontents : (outputs (Recipe.auth "migrations") render request t.stamp given).map
      (·.map (·.content)) = .ok contents := by decide +kernel
  obtain ⟨drafts, patch, hprepared, -, hafter⟩ := exists_of_run_eq_ok rfl hrun
  obtain ⟨_, text, hlisted, hdrafts, hread, hpatch⟩ := (preparedIn_eq_ok_iff _ _ _ _).mp hprepared
  obtain rfl := Except.ok.inj hlisted
  rw [hsort] at hdrafts
  have hwrites : drafts.map (fun draft => (placeOf request.root draft, draft.content)) =
      (written.map (fun path => request.root.join ⟨path⟩)).zip contents :=
    eq_of_map_eq_ok hdrafts (by decide +kernel)
  let setup := setupPath (Recipe.auth "migrations") request.root
  have hbeside {path : Path} (h : setup.same path = false) : outcome.2.bytes? path =
      ((((written.map (fun path => request.root.join ⟨path⟩)).zip contents).reverse.find?
        fun write => write.1.same path).map (·.2)).or (store.bytes? path) := by
    rw [show outcome.2 = _ from hafter, bytes?_put_generate, hwrites, List.reverse_append,
      List.reverse_singleton, List.singleton_append, List.find?_cons, h]
  refine ⟨by decide +kernel, hrun, by decide, by rw [hsort]; exact hcontents, ?_, ?_, ?_⟩
  · rw [hbeside (by decide +kernel)]
    decide +kernel
  · rw [hbeside (by decide +kernel)]
    decide +kernel
  · have hsame : setup.same (request.root.join ⟨"actions/app.go"⟩) = true := by decide +kernel
    rw [show outcome.2 = _ from hafter, Store.bytes?_put, if_pos hsame]
    intro heq
    have hcontent : patch.content = "package actions\n" :=
      toUTF8_injective (Option.some.inj heq)
    have hmarker := Patch.marker_infix_of_apply_eq_ok hpatch
    rw [hcontent] at hmarker
    have hanchor : patch.anchor ∈ [currentAnchor, legacyAnchor] :=
      List.mem_of_getElem? (Patch.anchor_of_apply_eq_ok hpatch).1
    have hfree : ∀ anchor ∈ [currentAnchor, legacyAnchor],
        ¬ anchor.marker.toList <:+: "package actions\n".toList := by decide +kernel
    exact hfree _ hanchor hmarker

end Scaffold.Run
