import Scaffold.Proofs.Run.Phases
/-!
# The order of changes

The order of the changes that a run makes, whatever filesystem it runs on. The changes asked for
are a beginning of one plan, in which the setup file comes last; nothing is asked for before
everything is prepared, and nothing after a failure.
-/

namespace Scaffold.Run

open Filesystem

variable {σ : Type} (files : Filesystem (StateM σ)) (source : TemplateSource (StateM σ))
  (render : Renderer) (recipe : Recipe) (request : Request) (stamp : Stamp)

/-- A run that starts in state `s` gets as far as its first change: the templates are listed, each
of them goes through all stages, and the setup file is there, can be read and holds an anchor. -/
structure Prepared (s : σ) (templates drafts : List Draft) (text : String)
    (patch : Patch.Outcome) : Prop where
  listed : (source.drafts.run s).1 = .ok templates
  generated :
    List.Forall₂
      (fun template draft =>
        Stage.applyAll (recipe.stages render ⟨request.project, request.attributes⟩ stamp)
          template = .ok draft)
      templates drafts
  present :
    ((files.contains (setupPath recipe request.root)).run (source.drafts.run s).2).1 = true
  read :
    ((files.readText (setupPath recipe request.root)).run
      ((files.contains (setupPath recipe request.root)).run (source.drafts.run s).2).2).1 = .ok text
  patched : recipe.patch.apply text = .ok patch

theorem readPatch_eq_ok_iff {root : Path} {s : σ} {patch : Patch.Outcome} :
    ((readPatch files recipe root).run s).1 = .ok patch ↔
      ((files.contains (setupPath recipe root)).run s).1 = true ∧
      ∃ text,
        ((files.readText (setupPath recipe root)).run
          ((files.contains (setupPath recipe root)).run s).2).1 = .ok text ∧
        recipe.patch.apply text = .ok patch := by
  rw [run_readPatch]
  obtain ⟨present, s₁, hpresent⟩ := exists_run_eq (files.contains (setupPath recipe root)) s
  rw [hpresent]
  cases present with
  | false => simp
  | true =>
      obtain ⟨read, s₂, hread⟩ := exists_run_eq (files.readText (setupPath recipe root)) s₁
      dsimp only
      rw [hread]
      cases read <;> simp

theorem prepare_eq_ok_iff {s : σ} {drafts : List Draft} {patch : Patch.Outcome} :
    ((prepare files source render recipe request stamp).run s).1 = .ok (drafts, patch) ↔
      ∃ templates text,
        Prepared files source render recipe request stamp s templates drafts text patch := by
  rw [run_prepare]
  constructor
  · intro h
    obtain ⟨listed, s₁, hlisted⟩ := exists_run_eq source.drafts s
    rw [hlisted] at h
    cases listed with
    | error failure => cases h
    | ok templates =>
        dsimp only at h
        cases hdrafts : outputs recipe render request stamp templates with
        | error failure =>
            rw [hdrafts] at h
            cases h
        | ok drafts' =>
            obtain ⟨read, s₂, hread⟩ := exists_run_eq (readPatch files recipe request.root) s₁
            rw [hdrafts, hread] at h
            cases read with
            | error failure => cases h
            | ok patch' =>
                cases h
                have hpatch : ((readPatch files recipe request.root).run s₁).1 = .ok patch := by
                  rw [hread]
                obtain ⟨hpresent, text, htext, hpatched⟩ :=
                  (readPatch_eq_ok_iff files recipe).mp hpatch
                refine ⟨templates, text, ?_⟩
                constructor
                · rw [hlisted]
                · exact (outputs_eq_ok_iff render recipe request stamp).mp hdrafts
                · rwa [hlisted]
                · rwa [hlisted]
                · exact hpatched
  · rintro ⟨templates, text, hlisted, hgenerated, hpresent, hread, hpatched⟩
    obtain ⟨listed, s₁, hsource⟩ := exists_run_eq source.drafts s
    rw [hsource] at hlisted hpresent hread ⊢
    subst hlisted
    have hpatch := (readPatch_eq_ok_iff files recipe).mpr ⟨hpresent, text, hread, hpatched⟩
    dsimp only
    rw [(outputs_eq_ok_iff render recipe request stamp).mpr hgenerated]
    obtain ⟨outcome, s₂, houtcome⟩ := exists_run_eq (readPatch files recipe request.root) s₁
    rw [houtcome] at hpatch ⊢
    cases hpatch
    rfl

/-! ## Recorded runs -/

theorem run_run_recorded (calls : List Call) (s : σ) :
    ((run files.recorded source.recorded render recipe request stamp).run calls).run s =
      match (prepare files source render recipe request stamp).run s with
      | (.error failure, s) => ((.error failure, calls), s)
      | (.ok (drafts, patch), s) =>
        ((finish files.recorded recipe request stamp drafts patch).run calls).run s := by
  obtain ⟨prepared, s', hprepared⟩ :=
    exists_run_eq (prepare files source render recipe request stamp) s
  rw [run_eq_prepare_finish, prepare_recorded, StateT.run_bind, StateT.run_lift, bind_assoc,
    run_bind_of_run_eq hprepared, hprepared, pure_bind]
  cases prepared <;> rfl

theorem run_finish_recorded (drafts : List Draft) (patch : Patch.Outcome) (calls : List Call)
    (s : σ) :
    ((finish files.recorded recipe request stamp drafts patch).run calls).run s =
      if request.dryRun then ((.ok (report recipe request stamp drafts patch), calls), s)
      else
        match ((files.recorded.performAll
          (plan recipe request.root drafts patch.content)).run calls).run s with
        | ((.ok (), calls), s) => ((.ok (report recipe request stamp drafts patch), calls), s)
        | ((.error failure, calls), s) => ((.error failure, calls), s) := by
  unfold finish
  cases request.dryRun with
  | true => rfl
  | false =>
      obtain ⟨performed, s', hperformed⟩ :=
        exists_run_eq ((files.recorded.performAll
          (plan recipe request.root drafts patch.content)).run calls) s
      rw [if_neg Bool.false_ne_true, if_neg Bool.false_ne_true, StateT.run_bind,
        run_bind_of_run_eq hperformed, hperformed]
      obtain ⟨result, calls'⟩ := performed
      cases result <;> rfl

/-- The calls of a run from state `s`: none, or those that carry out its plan. -/
inductive Calls (s : σ) : Except Failure Report → List Call → Prop where
  | unprepared (failure : Failure) : Calls s (.error failure) []
  | dry {templates drafts : List Draft} {text : String} {patch : Patch.Outcome} :
      request.dryRun = true →
      Prepared files source render recipe request stamp s templates drafts text patch →
      Calls s (.ok (report recipe request stamp drafts patch)) []
  | performed {templates drafts : List Draft} {text : String} {patch : Patch.Outcome}
      {result : Except Failure Unit} {calls : List Call} :
      request.dryRun = false →
      Prepared files source render recipe request stamp s templates drafts text patch →
      Carries (plan recipe request.root drafts patch.content) calls result →
      Calls s (result.map fun _ => report recipe request stamp drafts patch) calls

theorem calls_run (s : σ) :
    Calls files source render recipe request stamp s
      (((run files.recorded source.recorded render recipe request stamp).run []).run s).1.1
      (((run files.recorded source.recorded render recipe request stamp).run []).run s).1.2 := by
  rw [run_run_recorded]
  obtain ⟨prepared, s', hprepared⟩ :=
    exists_run_eq (prepare files source render recipe request stamp) s
  rw [hprepared]
  cases prepared with
  | error failure => exact .unprepared failure
  | ok prepared =>
      obtain ⟨drafts, patch⟩ := prepared
      have hok : ((prepare files source render recipe request stamp).run s).1 =
          .ok (drafts, patch) := by rw [hprepared]
      obtain ⟨templates, text, hready⟩ :=
        (prepare_eq_ok_iff files source render recipe request stamp).mp hok
      dsimp only
      rw [run_finish_recorded]
      cases hdry : request.dryRun with
      | true => exact .dry hdry hready
      | false =>
          rw [if_neg Bool.false_ne_true]
          obtain ⟨made, hmade, hcarries⟩ :=
            carries_performAll files (plan recipe request.root drafts patch.content) [] s'
          obtain ⟨⟨result, calls⟩, s'', hperformed⟩ :=
            exists_run_eq ((files.recorded.performAll
              (plan recipe request.root drafts patch.content)).run []) s'
          rw [hperformed] at hmade hcarries ⊢
          rw [List.nil_append] at hmade
          subst hmade
          have hcalls := Calls.performed hdry hready hcarries
          cases result <;> exact hcalls

theorem Prepared.unique {s : σ} {templates templates' drafts drafts' : List Draft}
    {text text' : String} {patch patch' : Patch.Outcome}
    (h : Prepared files source render recipe request stamp s templates drafts text patch)
    (h' : Prepared files source render recipe request stamp s templates' drafts' text' patch') :
    drafts = drafts' ∧ patch = patch' := by
  have hok := (prepare_eq_ok_iff files source render recipe request stamp).mpr ⟨_, _, h⟩
  have hok' := (prepare_eq_ok_iff files source render recipe request stamp).mpr ⟨_, _, h'⟩
  rw [hok] at hok'
  cases hok'
  exact ⟨rfl, rfl⟩

/-- The generated files are written in order, each after its directories, and the setup file after
all of them. Only a prepared run that is not dry asks for changes, it asks for all of them when it
succeeds, and the one that fails is the last. -/
theorem changes_follow_plan (s : σ) :
    let target := request.root.join ⟨recipe.patch.target⟩
    let place := fun draft : Draft => request.root.join draft.path.path
    let generating := fun drafts : List Draft =>
      drafts.flatMap fun draft =>
        ((place draft).parent?.map Change.createDirs).toList ++ [.write (place draft) draft.content]
    let outcome :=
      ((run files.recorded source.recorded render recipe request stamp).run []).run s
    let result := outcome.1.1
    let calls := outcome.1.2
    (result, outcome.2) = (run files source render recipe request stamp).run s ∧
    (calls ≠ [] →
      request.dryRun = false ∧
      ∃ templates drafts text patch,
        Prepared files source render recipe request stamp s templates drafts text patch) ∧
    (∀ templates drafts text patch,
      Prepared files source render recipe request stamp s templates drafts text patch →
      calls.map (·.change) <+: generating drafts ++ [.write target patch.content.toUTF8] ∧
      ((generating drafts).length < calls.length →
        (calls.take (generating drafts).length).map (·.change) = generating drafts ∧
        ∀ call ∈ calls.take (generating drafts).length, call.result = .ok ())) ∧
    (∀ report, result = .ok report →
      ∃ templates drafts text patch,
        Prepared files source render recipe request stamp s templates drafts text patch ∧
        (request.dryRun = false →
          calls.map (·.change) = generating drafts ++ [.write target patch.content.toUTF8] ∧
          ∀ call ∈ calls, call.result = .ok ())) ∧
    (∀ failure, result = .error failure → calls ≠ [] →
      ∃ last, calls.getLast? = some last ∧ last.result = .error failure) ∧
    ∀ call ∈ calls.dropLast, call.result = .ok () := by
  intro target place generating outcome result calls
  have hforget : (result, outcome.2) = (run files source render recipe request stamp).run s := by
    rw [← map_fst_run_recorded files source render recipe request stamp [], StateT.run_map]
    rfl
  have hplan (drafts : List Draft) (setup : String) :
      plan recipe request.root drafts setup = generating drafts ++ [.write target setup.toUTF8] :=
    rfl
  have hcalls : Calls files source render recipe request stamp s result calls :=
    calls_run files source render recipe request stamp s
  clear_value calls result
  refine ⟨hforget, ?_⟩
  cases hcalls with
  | unprepared failure => simp
  | dry hdry hready =>
      refine ⟨by simp, by simp, ?_, by simp, by simp⟩
      rintro report -
      exact ⟨_, _, _, _, hready, by simp [hdry]⟩
  | @performed templates drafts text patch outcome calls hwet hready hcarries =>
      rw [hplan] at hcarries
      refine ⟨fun _ => ⟨hwet, _, _, _, _, hready⟩, ?_, ?_, ?_, hcarries.ok_of_mem_dropLast⟩
      · intro templates' drafts' text' patch' hready'
        obtain ⟨rfl, rfl⟩ := hready.unique _ _ _ _ _ _ hready'
        exact ⟨hcarries.isPrefix, hcarries.take_of_length_lt⟩
      · intro report hreport
        refine ⟨_, _, _, _, hready, fun _ => hcarries.eq_of_ok ?_⟩
        cases outcome with
        | ok _ => rfl
        | error failure => cases hreport
      · intro failure hfailure _
        apply hcarries.getLast?_of_error
        cases outcome with
        | ok _ => cases hfailure
        | error cause =>
            cases hfailure
            rfl

end Scaffold.Run
