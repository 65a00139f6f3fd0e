import Mathlib.Data.List.DropRight
import Mathlib.Data.List.Forall2
import Scaffold.Command.Generate
import Scaffold.Filesystem.Store
import Scaffold.Proofs.Path.Resolved
import Scaffold.Proofs.Recipe.Destination
import Scaffold.Proofs.Run.WriteOrder
/-!
# Containment

Where a run of the authentication generator writes. What is not a migration goes inside the project;
a migration goes inside it as long as the directory that the user named is there.
-/

namespace Scaffold

open Filesystem Scaffold.Path

namespace Recipe.Auth

/-! ## The directory of migrations -/

theorem folder_eq_components {directory : String} (h : (Path.mk directory).isAbsolute = false) :
    folder directory = (Path.mk directory).components := by
  let bare := Stage.bareDirectory directory
  let slashes := directory.toList.rtakeWhile (· = '/')
  have hlist : directory.toList = bare ++ slashes := List.rdropWhile_append_rtakeWhile.symm
  have hslashes : slashes = List.replicate slashes.length '/' :=
    List.eq_replicate_of_mem fun c hc => by simpa using List.mem_rtakeWhile_imp hc
  have hfolder : folder directory = (Path.mk ⟨Text.Utf8.encode bare⟩).components := by
    rw [folder, RawText.ofString, String.toList_ofList]
  have hdirectory : Path.mk directory =
      ⟨⟨Text.Utf8.encode bare ++ List.replicate slashes.length slash⟩⟩ := by
    have hencode (count : Nat) :
        Text.Utf8.encode (List.replicate count '/') = List.replicate count slash := by
      induction count with
      | zero => rfl
      | succ count ih =>
          rw [List.replicate_succ, List.replicate_succ, Text.Utf8.encode_cons, ih]
          rfl
    rw [RawText.ofString, hlist, Text.Utf8.encode_append, ← hencode, ← hslashes]
  by_cases hbare : bare = []
  · -- a directory of slashes alone would be absolute
    have hnil : slashes = [] := by
      cases hcase : slashes with
      | nil => rfl
      | cons c cs =>
          have hc : c = '/' := by
            have hmem : c ∈ slashes := by rw [hcase]; exact List.mem_cons_self
            simpa using List.mem_rtakeWhile_imp hmem
          rw [isAbsolute_ofString_iff, hlist, hbare, hcase, hc] at h
          exact absurd rfl h
    rw [hfolder, hdirectory, hnil, List.length_nil, List.replicate_zero, List.append_nil]
  · have hne : Text.Utf8.encode bare ≠ [] := fun hnil =>
      hbare (Text.Utf8.encode_inj.mp (hnil.trans Text.Utf8.encode_nil.symm))
    rw [hfolder, hdirectory, components_append_slashes hne]

theorem isAbsolute_eq_false_of_checkMigrations {directory : String}
    (h : Command.checkMigrations directory = .ok ()) :
    (Path.mk directory).isAbsolute = false := by
  rw [Command.checkMigrations] at h
  split at h
  · cases h
  · split at h
    · cases h
    · next habsolute => simpa using habsolute

/-! ## Where the files of a run are -/

section

variable {directory : String} {render : Renderer} {context : Context} {t : Instant}
  {template draft : Draft}

theorem inside_of_hasSuffix_false (root : Path)
    (hup : .up ∉ template.path.path.components)
    (h : Stage.applyAll ((auth directory).stages render context t.stamp) template = .ok draft)
    (hsuffix : template.hasSuffix ".fizz" = false) :
    Inside root (root.join draft.path.path) := by
  have hmoves := moves_of_applyAll h
  have hmigration : ¬ HasEnding ".fizz" template.path.path.components := by
    rw [← Draft.hasSuffix_iff isName_fizz (by decide), hsuffix]
    exact Bool.false_ne_true
  refine inside_join draft.path.not_absolute ?_ root
  by_cases hpage : HasEnding ".html" template.path.path.components
  · obtain ⟨above, stem, hlossy⟩ := hasEnding_iff_lossy.mp hpage
    have hshown : .up ∉ template.path.path.components.map Component.lossy := by simpa using hup
    rw [hlossy] at hshown
    rw [hmoves.page above stem hlossy]
    simpa using hshown
  · rwa [hmoves.other hpage hmigration]

/-- A migration is in the directory that the user named, under one name. -/
theorem resolve_of_hasSuffix (root : Path) (hdirectory : (Path.mk directory).isAbsolute = false)
    (h : Stage.applyAll ((auth directory).stages render context t.stamp) template = .ok draft)
    (hsuffix : template.hasSuffix ".fizz" = true) :
    ∃ name, resolve (root.join draft.path.path).components =
      resolve (root.join ⟨directory⟩).components ++ [.name name] := by
  have hmigration := (Draft.hasSuffix_iff isName_fizz (by decide)).mp hsuffix
  refine ⟨(t.stamp.text ++ "_" ++ template.path.path.fileName?.getD "" : String), ?_⟩
  rw [components_join draft.path.not_absolute, (moves_of_applyAll h).migration hmigration,
    within_concat_name, folder_eq_components hdirectory, ← List.append_assoc,
    ← components_join hdirectory, resolve_concat_name]

/-- What is not a migration is inside the project. A migration is inside it exactly when its
directory is, or when it falls on the project directory itself. -/
theorem inside_of_applyAll (root : Path) (hdirectory : (Path.mk directory).isAbsolute = false)
    (hup : .up ∉ template.path.path.components)
    (h : Stage.applyAll ((auth directory).stages render context t.stamp) template = .ok draft) :
    (template.hasSuffix ".fizz" = false → Inside root (root.join draft.path.path)) ∧
    (template.hasSuffix ".fizz" = true →
      (Inside root (root.join draft.path.path) ↔
        Inside root (root.join ⟨directory⟩) ∨
          resolve (root.join draft.path.path).components = resolve root.components)) := by
  refine ⟨inside_of_hasSuffix_false root hup h, fun hsuffix => ?_⟩
  obtain ⟨name, hname⟩ := resolve_of_hasSuffix root hdirectory h hsuffix
  exact inside_iff_of_concat hname

end

end Recipe.Auth

namespace Run

open Recipe.Auth

def writtenPath? : Change → Option Path
  | .write path _ => some path
  | .createDirs _ => none

def writtenPaths (calls : List Call) : List Path :=
  calls.filterMap fun call => writtenPath? call.change

theorem filterMap_changesFor (root : Path) (draft : Draft) :
    (changesFor root draft).filterMap writtenPath? = [placeOf root draft] := by
  rw [changesFor, List.filterMap_append]
  cases (placeOf root draft).parent? <;> rfl

theorem filterMap_plan (recipe : Recipe) (root : Path) (drafts : List Draft) (setup : String) :
    (plan recipe root drafts setup).filterMap writtenPath? =
      drafts.map (placeOf root) ++ [setupPath recipe root] := by
  have hdrafts : (drafts.flatMap (changesFor root)).filterMap writtenPath? =
      drafts.map (placeOf root) := by
    induction drafts with
    | nil => rfl
    | cons draft drafts ih =>
        rw [List.flatMap_cons, List.filterMap_append, filterMap_changesFor, ih]
        rfl
  rw [plan, List.filterMap_append, hdrafts]
  rfl

section

variable {σ : Type} (files : Filesystem (StateM σ)) (source : TemplateSource (StateM σ))
  (render : Renderer) (recipe : Recipe) (request : Request) (stamp : Stamp)

theorem writtenPaths_of_run_eq_ok {s : σ} {outcome : Report}
    (h : (((run files.recorded source.recorded render recipe request stamp).run []).run s).1.1 =
      .ok outcome) :
    ∃ templates drafts text patch,
      Prepared files source render recipe request stamp s templates drafts text patch ∧
      writtenPaths
        (((run files.recorded source.recorded render recipe request stamp).run []).run s).1.2 =
        if request.dryRun then [] else
          drafts.map (placeOf request.root) ++ [setupPath recipe request.root] := by
  have hcalls := calls_run files source render recipe request stamp s
  generalize (((run files.recorded source.recorded render recipe request stamp).run []).run s).1.2 =
    calls at hcalls ⊢
  rw [h] at hcalls
  generalize hresult : Except.ok outcome = result at hcalls
  cases hcalls with
  | unprepared failure => cases hresult
  | dry hdry hready => exact ⟨_, _, _, _, hready, by rw [if_pos hdry]; rfl⟩
  | @performed templates drafts text patch performed calls hwet hready hcarries =>
      have hok : performed = .ok () := by
        cases performed with
        | ok _ => rfl
        | error failure => cases hresult
      have hchanges := (hcarries.eq_of_ok hok).1
      refine ⟨_, _, _, _, hready, ?_⟩
      rw [hwet, if_neg Bool.false_ne_true, ← filterMap_plan, ← hchanges, List.filterMap_map]
      rfl

end

theorem forall_mem_of_forall₂ {α β : Type} {R : α → β → Prop} {p : β → Prop} {as : List α}
    {bs : List β} (h : List.Forall₂ R as bs) (hp : ∀ a b, R a b → p b) : ∀ b ∈ bs, p b := by
  induction h with
  | nil => simp
  | cons hfirst _ ih => exact List.forall_mem_cons.mpr ⟨hp _ _ hfirst, ih⟩

/-- Migrations left aside, no file is written outside the project. A migration is inside it exactly
when its directory is, or when it falls on the project directory itself; so a directory inside the
project, such as any without `..`, keeps all files inside. -/
theorem run_auth_writes_inside {σ : Type} (files : Filesystem (StateM σ))
    (source : TemplateSource (StateM σ)) (render : Renderer) (directory : String)
    (request : Request) (t : Instant) (s : σ) (templates : List Draft) (outcome : Report)
    (haccepted : Command.checkMigrations directory = .ok ())
    (hlisted : (source.drafts.run s).1 = .ok templates)
    (hup : ∀ template ∈ templates, .up ∉ template.path.path.components)
    (hrun : (((run files.recorded source.recorded render (Recipe.auth directory) request
      t.stamp).run []).run s).1.1 = .ok outcome) :
    let root := request.root
    let written := writtenPaths (((run files.recorded source.recorded render
      (Recipe.auth directory) request t.stamp).run []).run s).1.2
    ∃ drafts : List Draft,
      (written = if request.dryRun then [] else
        drafts.map (fun draft => root.join draft.path.path) ++ [root.join ⟨"actions/app.go"⟩]) ∧
      Inside root (root.join ⟨"actions/app.go"⟩) ∧
      List.Forall₂
        (fun template draft =>
          Stage.applyAll ((Recipe.auth directory).stages render
            ⟨request.project, request.attributes⟩ t.stamp) template = .ok draft ∧
          (template.hasSuffix ".fizz" = false → Inside root (root.join draft.path.path)) ∧
          (template.hasSuffix ".fizz" = true →
            (Inside root (root.join draft.path.path) ↔
              Inside root (root.join ⟨directory⟩) ∨
                resolve (root.join draft.path.path).components = resolve root.components)))
        templates drafts ∧
      (Inside root (root.join ⟨directory⟩) → ∀ path ∈ written, Inside root path) ∧
      (.up ∉ (Path.mk directory).components → ∀ path ∈ written, Inside root path) := by
  intro root written
  obtain ⟨templates', drafts, text, patch, hready, hwritten⟩ :=
    writtenPaths_of_run_eq_ok files source render _ request t.stamp hrun
  have htemplates := hready.listed
  rw [hlisted] at htemplates
  obtain rfl := Except.ok.inj htemplates
  have hdirectory := isAbsolute_eq_false_of_checkMigrations haccepted
  have hsetup : Inside root (root.join ⟨"actions/app.go"⟩) := inside_join rfl (by decide) root
  have hplaced := ((List.forall₂_and_left _ _).mpr ⟨hup, hready.generated⟩).imp
    fun template draft h => And.intro h.2 (inside_of_applyAll root hdirectory h.1 h.2)
  have hall (hfolder : Inside root (root.join ⟨directory⟩)) :
      ∀ path ∈ written, Inside root path := by
    have hdrafts : ∀ draft ∈ drafts, Inside root (root.join draft.path.path) := by
      refine forall_mem_of_forall₂ hplaced ?_
      rintro template draft ⟨-, hother, hmigration⟩
      cases hsuffix : template.hasSuffix ".fizz" with
      | false => exact hother hsuffix
      | true => exact (hmigration hsuffix).mpr (.inl hfolder)
    intro path hpath
    rw [show written = _ from hwritten] at hpath
    split at hpath
    · cases hpath
    · rcases List.mem_append.mp hpath with hpath | hpath
      · obtain ⟨draft, hdraft, rfl⟩ := List.mem_map.mp hpath
        exact hdrafts draft hdraft
      · obtain rfl := List.mem_singleton.mp hpath
        exact hsetup
  exact ⟨drafts, hwritten, hsetup, hplaced, hall,
    fun hplain => hall (inside_join hdirectory hplain root)⟩

/-- A directory that goes up and comes back: page, migration and setup file are all inside. -/
theorem run_auth_writes_inside_after_detour :
    let store := Store.empty.withFile ⟨"/work/shop/actions/app.go"⟩
      "if app == nil \x7b\n\x7d\n".toUTF8
    let given : List Draft :=
      [⟨⟨⟨"db/users.fizz"⟩, rfl⟩, "drop_table(\"users\")\n".toUTF8⟩,
        ⟨⟨⟨"auth/new.html"⟩, rfl⟩, "<form></form>\n".toUTF8⟩]
    let source : TemplateSource (StateM Store) := .listing "two templates" (.ok given)
    let request : Request := ⟨⟨"/work/shop"⟩, .ofRoot ⟨"/work/shop"⟩, .empty, false⟩
    let t : Instant := ⟨0, by decide⟩
    let result := (((run ofStore.recorded source.recorded (fun _ source _ => .ok source)
      (Recipe.auth "db/../migrations/") request t.stamp).run []).run store).1.1
    let calls := (((run ofStore.recorded source.recorded (fun _ source _ => .ok source)
      (Recipe.auth "db/../migrations/") request t.stamp).run []).run store).1.2
    Command.checkMigrations "db/../migrations/" = .ok () ∧
    result = .ok
      ⟨"auth", t.stamp, ["db/../migrations/19700101000000_users.fizz", "auth/new.plush.html"],
        "actions/app.go", "if app == nil \x7b",
        [⟨"actions/app.go", "if app == nil \x7b", legacyAnchor.note⟩], false⟩ ∧
    ∀ path ∈ writtenPaths calls, Inside request.root path := by
  intro store given source request t result calls
  have haccepted : Command.checkMigrations "db/../migrations/" = .ok () := by decide +kernel
  have hrun : result = .ok
      ⟨"auth", t.stamp, ["db/../migrations/19700101000000_users.fizz", "auth/new.plush.html"],
        "actions/app.go", "if app == nil \x7b",
        [⟨"actions/app.go", "if app == nil \x7b", legacyAnchor.note⟩], false⟩ := by
    decide +kernel
  refine ⟨haccepted, hrun, ?_⟩
  obtain ⟨-, -, -, -, hall, -⟩ :=
    run_auth_writes_inside ofStore source (fun _ source _ => .ok source) "db/../migrations/"
      request t store given _ haccepted rfl (by decide +kernel) hrun
  exact hall ⟨["migrations"], by decide +kernel⟩

/-- A directory that goes up and does not come back is accepted, and its migrations are written
beside the project. -/
theorem run_auth_writes_outside :
    let store := Store.empty.withFile ⟨"/work/shop/actions/app.go"⟩
      "if app == nil \x7b\n\x7d\n".toUTF8
    let given : List Draft := [⟨⟨⟨"db/users.fizz"⟩, rfl⟩, "drop_table(\"users\")\n".toUTF8⟩]
    let source : TemplateSource (StateM Store) := .listing "one migration" (.ok given)
    let request : Request := ⟨⟨"/work/shop"⟩, .ofRoot ⟨"/work/shop"⟩, .empty, false⟩
    let t : Instant := ⟨0, by decide⟩
    let result := (((run ofStore.recorded source.recorded (fun _ source _ => .ok source)
      (Recipe.auth "../outside") request t.stamp).run []).run store).1.1
    let calls := (((run ofStore.recorded source.recorded (fun _ source _ => .ok source)
      (Recipe.auth "../outside") request t.stamp).run []).run store).1.2
    Command.checkMigrations "../outside" = .ok () ∧
    (∀ template ∈ given, .up ∉ template.path.path.components) ∧
    result = .ok
      ⟨"auth", t.stamp, ["../outside/19700101000000_users.fizz"], "actions/app.go",
        "if app == nil \x7b",
        [⟨"actions/app.go", "if app == nil \x7b", legacyAnchor.note⟩], false⟩ ∧
    ∃ path ∈ writtenPaths calls, ¬ Inside request.root path := by
  intro store given source request t result calls
  have hwritten : writtenPaths calls =
      [⟨"/work/shop/../outside/19700101000000_users.fizz"⟩, ⟨"/work/shop/actions/app.go"⟩] := by
    decide +kernel
  refine ⟨by decide +kernel, by decide +kernel, by decide +kernel, _,
    hwritten ▸ List.mem_cons_self, ?_⟩
  rintro ⟨names, hnames⟩
  have hprefix : resolve request.root.components <+:
      resolve (Path.mk "/work/shop/../outside/19700101000000_users.fizz").components :=
    ⟨_, hnames.symm⟩
  revert hprefix
  decide +kernel

end Run

end Scaffold
