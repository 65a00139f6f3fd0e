import Mathlib.Data.List.Forall2
import Scaffold.Proofs.Filesystem.Calls
import Scaffold.Run
/-!
# The two phases of a run

Everything up to the patch is prepared without a change to any file; then the changes are carried
out. Keeping a record of the changes does not alter a run.
-/

namespace Scaffold

open Filesystem

/-- A source whose files do not lie where the run writes: what it lists is fixed beforehand. -/
def TemplateSource.listing {m : Type → Type} [Monad m] (describe : String)
    (listed : Except Failure (List Draft)) : TemplateSource m where
  describe := describe
  drafts := pure listed

def TemplateSource.recorded {m : Type → Type} [Monad m] (source : TemplateSource m) :
    TemplateSource (StateT (List Call) m) where
  describe := source.describe
  drafts := StateT.lift source.drafts

namespace Run

variable {m : Type → Type} [Monad m] (files : Filesystem m) (source : TemplateSource m)
  (render : Renderer) (recipe : Recipe) (request : Request) (stamp : Stamp)

def prepare : m (Except Failure (List Draft × Patch.Outcome)) := do
  match ← source.drafts with
  | .error failure => return .error failure
  | .ok templates =>
    match outputs recipe render request stamp templates with
    | .error failure => return .error failure
    | .ok drafts =>
      match ← readPatch files recipe request.root with
      | .error failure => return .error failure
      | .ok patch => return .ok (drafts, patch)

theorem run_eq_prepare_finish [LawfulMonad m] :
    run files source render recipe request stamp = (do
      match ← prepare files source render recipe request stamp with
      | .error failure => return .error failure
      | .ok (drafts, patch) => finish files recipe request stamp drafts patch) := by
  simp only [run, prepare, bind_assoc]
  apply bind_congr
  intro listed
  cases listed with
  | error failure => simp only [pure_bind]
  | ok templates =>
      dsimp only
      cases outputs recipe render request stamp templates with
      | error failure => simp only [pure_bind]
      | ok drafts =>
          simp only [bind_assoc]
          apply bind_congr
          intro read
          cases read <;> simp only [pure_bind]

theorem readPatch_recorded [LawfulMonad m] (root : Path) :
    readPatch files.recorded recipe root = StateT.lift (readPatch files recipe root) := by
  apply StateT.ext
  intro calls
  simp only [readPatch, recorded, StateT.run_bind, StateT.run_lift, bind_assoc, pure_bind]
  apply bind_congr
  intro present
  cases present with
  | false => simp
  | true =>
      simp only [if_true, StateT.run_bind, StateT.run_lift, bind_assoc, pure_bind]
      apply bind_congr
      intro read
      cases read <;> simp

theorem prepare_recorded [LawfulMonad m] :
    prepare files.recorded source.recorded render recipe request stamp =
      StateT.lift (prepare files source render recipe request stamp) := by
  apply StateT.ext
  intro calls
  simp only [prepare, TemplateSource.recorded, StateT.run_bind, StateT.run_lift, bind_assoc,
    pure_bind]
  apply bind_congr
  intro listed
  cases listed with
  | error failure => simp
  | ok templates =>
      dsimp only
      cases outputs recipe render request stamp templates with
      | error failure => simp
      | ok drafts =>
          simp only [readPatch_recorded, StateT.run_bind, StateT.run_lift, bind_assoc, pure_bind]
          apply bind_congr
          intro read
          cases read <;> simp

theorem map_fst_finish_recorded [LawfulMonad m] (drafts : List Draft) (patch : Patch.Outcome)
    (calls : List Call) :
    Prod.fst <$> (finish files.recorded recipe request stamp drafts patch).run calls =
      finish files recipe request stamp drafts patch := by
  unfold finish
  cases request.dryRun with
  | true => simp
  | false =>
      simp only [Bool.false_eq_true, if_false, StateT.run_bind, map_bind]
      rw [← map_fst_performAll_recorded files _ calls, bind_map_left]
      apply bind_congr
      rintro ⟨result, calls'⟩
      cases result <;> simp

/-- Forgetting the record gives back the run. -/
theorem map_fst_run_recorded [LawfulMonad m] (calls : List Call) :
    Prod.fst <$> (run files.recorded source.recorded render recipe request stamp).run calls =
      run files source render recipe request stamp := by
  rw [run_eq_prepare_finish, run_eq_prepare_finish, prepare_recorded]
  simp only [StateT.run_bind, StateT.run_lift, bind_assoc, pure_bind, map_bind]
  apply bind_congr
  intro prepared
  cases prepared with
  | error failure => simp
  | ok prepared => exact map_fst_finish_recorded files recipe request stamp _ _ calls

theorem bind_eq_ok_iff {ε α β : Type} {x : Except ε α} {f : α → Except ε β} {b : β} :
    x >>= f = .ok b ↔ ∃ a, x = .ok a ∧ f a = .ok b := by
  cases x with
  | error e => simp [bind, Except.bind]
  | ok a => simp [bind, Except.bind]

theorem mapM_eq_ok_iff {ε α β : Type} {f : α → Except ε β} {as : List α} {bs : List β} :
    as.mapM f = .ok bs ↔ List.Forall₂ (fun a b => f a = .ok b) as bs := by
  induction as generalizing bs with
  | nil =>
      rw [List.mapM_nil, List.forall₂_nil_left_iff, eq_comm]
      exact ⟨fun h => Except.ok.inj h, fun h => congrArg Except.ok h⟩
  | cons a as ih =>
      rw [List.mapM_cons, List.forall₂_cons_left_iff]
      constructor
      · intro h
        obtain ⟨first, hfirst, h⟩ := bind_eq_ok_iff.mp h
        obtain ⟨rest, hrest, h⟩ := bind_eq_ok_iff.mp h
        exact ⟨first, rest, hfirst, ih.mp hrest, (Except.ok.inj h).symm⟩
      · rintro ⟨first, rest, hfirst, hrest, rfl⟩
        rw [hfirst, ih.mpr hrest]
        rfl

theorem outputs_eq_ok_iff {templates drafts : List Draft} :
    outputs recipe render request stamp templates = .ok drafts ↔
      List.Forall₂
        (fun template draft =>
          Stage.applyAll (recipe.stages render ⟨request.project, request.attributes⟩ stamp)
            template = .ok draft)
        templates drafts :=
  mapM_eq_ok_iff

section

variable {recipe render request stamp}

theorem applyAll_of_outputs_eq_ok {templates drafts : List Draft}
    (h : outputs recipe render request stamp templates = .ok drafts) {i : Nat}
    {template draft : Draft} (htemplate : templates[i]? = some template)
    (hdraft : drafts[i]? = some draft) :
    Stage.applyAll (recipe.stages render ⟨request.project, request.attributes⟩ stamp) template =
      .ok draft := by
  obtain ⟨-, hall⟩ := List.forall₂_iff_get.mp ((outputs_eq_ok_iff _ _ _ _).mp h)
  obtain ⟨hi, rfl⟩ := List.getElem?_eq_some_iff.mp htemplate
  obtain ⟨hi', rfl⟩ := List.getElem?_eq_some_iff.mp hdraft
  exact hall i hi hi'

theorem exists_template_of_outputs_eq_ok {templates drafts : List Draft}
    (h : outputs recipe render request stamp templates = .ok drafts) {draft : Draft}
    (hdraft : draft ∈ drafts) :
    ∃ template ∈ templates,
      Stage.applyAll (recipe.stages render ⟨request.project, request.attributes⟩ stamp) template =
        .ok draft := by
  obtain ⟨i, hi⟩ := List.mem_iff_getElem?.mp hdraft
  obtain ⟨hlength, -⟩ := List.getElem?_eq_some_iff.mp hi
  rw [← ((outputs_eq_ok_iff _ _ _ _).mp h).length_eq] at hlength
  exact ⟨templates[i], List.getElem_mem hlength,
    applyAll_of_outputs_eq_ok h (List.getElem?_eq_getElem hlength) hi⟩

end

/-! ## Runs on a state -/

section State

variable {σ : Type} (files : Filesystem (StateM σ)) (source : TemplateSource (StateM σ))

theorem exists_run_eq {α : Type} (x : StateM σ α) (s : σ) : ∃ a s', x.run s = (a, s') :=
  ⟨_, _, rfl⟩

theorem run_bind_of_run_eq {α β : Type} {x : StateM σ α} {f : α → StateM σ β} {s s' : σ} {a : α}
    (h : x.run s = (a, s')) : (x >>= f).run s = (f a).run s' := by
  rw [StateT.run_bind, h]
  rfl

theorem run_readPatch (root : Path) (s : σ) :
    (readPatch files recipe root).run s =
      match (files.contains (setupPath recipe root)).run s with
      | (true, s) =>
        match (files.readText (setupPath recipe root)).run s with
        | (.ok text, s) => (recipe.patch.apply text, s)
        | (.error failure, s) => (.error failure, s)
      | (false, s) => (.error (.targetNotFound (setupPath recipe root).text), s) := by
  obtain ⟨present, s₁, hpresent⟩ := exists_run_eq (files.contains (setupPath recipe root)) s
  rw [readPatch, run_bind_of_run_eq hpresent, hpresent]
  cases present with
  | false => rfl
  | true =>
      obtain ⟨read, s₂, hread⟩ := exists_run_eq (files.readText (setupPath recipe root)) s₁
      rw [if_pos rfl, run_bind_of_run_eq hread]
      dsimp only
      rw [hread]
      cases read <;> rfl

theorem run_prepare (s : σ) :
    (prepare files source render recipe request stamp).run s =
      match source.drafts.run s with
      | (.error failure, s) => (.error failure, s)
      | (.ok templates, s) =>
        match outputs recipe render request stamp templates with
        | .error failure => (.error failure, s)
        | .ok drafts =>
          match (readPatch files recipe request.root).run s with
          | (.error failure, s) => (.error failure, s)
          | (.ok patch, s) => (.ok (drafts, patch), s) := by
  obtain ⟨listed, s₁, hlisted⟩ := exists_run_eq source.drafts s
  rw [prepare, run_bind_of_run_eq hlisted, hlisted]
  cases listed with
  | error failure => rfl
  | ok templates =>
      dsimp only
      cases outputs recipe render request stamp templates with
      | error failure => rfl
      | ok drafts =>
          obtain ⟨read, s₂, hread⟩ := exists_run_eq (readPatch files recipe request.root) s₁
          dsimp only
          rw [run_bind_of_run_eq hread, hread]
          cases read <;> rfl

theorem run_run (s : σ) :
    (run files source render recipe request stamp).run s =
      match (prepare files source render recipe request stamp).run s with
      | (.error failure, s) => (.error failure, s)
      | (.ok (drafts, patch), s) =>
        (finish files recipe request stamp drafts patch).run s := by
  obtain ⟨prepared, s', hprepared⟩ :=
    exists_run_eq (prepare files source render recipe request stamp) s
  rw [run_eq_prepare_finish, run_bind_of_run_eq hprepared, hprepared]
  cases prepared <;> rfl

theorem run_finish (drafts : List Draft) (patch : Patch.Outcome) (s : σ) :
    (finish files recipe request stamp drafts patch).run s =
      if request.dryRun then (.ok (report recipe request stamp drafts patch), s)
      else
        match (files.performAll (plan recipe request.root drafts patch.content)).run s with
        | (.ok (), s) => (.ok (report recipe request stamp drafts patch), s)
        | (.error failure, s) => (.error failure, s) := by
  unfold finish
  cases request.dryRun with
  | true => rfl
  | false =>
      obtain ⟨result, s', hresult⟩ :=
        exists_run_eq (files.performAll (plan recipe request.root drafts patch.content)) s
      rw [if_neg Bool.false_ne_true, if_neg Bool.false_ne_true, run_bind_of_run_eq hresult, hresult]
      cases result <;> rfl

end State

end Run

end Scaffold
