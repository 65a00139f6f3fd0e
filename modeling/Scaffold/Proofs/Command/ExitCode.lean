import Scaffold.Command.Generate
import Scaffold.Proofs.Run.WriteOrder
/-!
# Exit codes and the files of a project

Every check comes before the first change, so a trouble that comes up later is one of the files
themselves or of the output. Those have exit code 1, and every other exit code stands for a project
that was not touched.
-/

namespace Scaffold

open Filesystem

/-- Changes fail with the failures of files and of locks, and with no other. -/
def Filesystem.FailsPlainly {σ : Type} (files : Filesystem (StateM σ)) : Prop :=
  ∀ (change : Change) (s : σ) (failure : Failure),
    ((files.perform change).run s).1 = .error failure →
    (∃ path reason, failure = .filesystem path reason) ∨ failure = .storeLocked

namespace Filesystem

theorem failsPlainly_ofDisk : Filesystem.ofDisk.FailsPlainly := by
  have hreport (path : Path) (operation : String) (result : Except Disk.Trouble Unit)
      (failure : Failure) (h : reportAt path operation result = .error failure) :
      ∃ path reason, failure = .filesystem path reason := by
    cases result with
    | ok _ => cases h
    | error trouble => exact ⟨_, _, (Except.error.inj h).symm⟩
  intro change disk failure h
  cases change with
  | createDirs path => exact .inl (hreport _ _ _ _ h)
  | write path content => exact .inl (hreport _ _ _ _ h)

variable {σ : Type} {files : Filesystem (StateM σ)}

theorem exists_perform_of_performAll_eq_error {changes : List Change} {s : σ} {failure : Failure}
    (h : ((files.performAll changes).run s).1 = .error failure) :
    ∃ change ∈ changes, ∃ s', ((files.perform change).run s').1 = .error failure := by
  induction changes generalizing s with
  | nil => cases h
  | cons change changes ih =>
      obtain ⟨result, s', hresult⟩ := Run.exists_run_eq (files.perform change) s
      rw [performAll, Run.run_bind_of_run_eq hresult] at h
      cases result with
      | error cause => exact ⟨change, List.mem_cons_self, s, by rw [hresult]; exact h⟩
      | ok _ =>
          obtain ⟨later, hlater, hfails⟩ := ih h
          exact ⟨later, List.mem_cons_of_mem _ hlater, hfails⟩

theorem FailsPlainly.category_of_performAll (hfiles : files.FailsPlainly) {changes : List Change}
    {s : σ} {failure : Failure} (h : ((files.performAll changes).run s).1 = .error failure) :
    failure.category = .internal := by
  obtain ⟨change, -, s', hfails⟩ := exists_perform_of_performAll_eq_error h
  rcases hfiles change s' failure hfails with ⟨path, reason, rfl⟩ | rfl <;> rfl

end Filesystem

/-- A failed run that asked for a change failed on its files. -/
theorem Run.category_of_calls_ne_nil {σ : Type} {files : Filesystem (StateM σ)}
    (hfiles : files.FailsPlainly) (source : TemplateSource (StateM σ)) (render : Renderer)
    (recipe : Recipe) (request : Request) (stamp : Stamp) {s s' : σ} {failure : Failure}
    {calls : List Call}
    (h : ((run files.recorded source.recorded render recipe request stamp).run []).run s =
      ((.error failure, calls), s'))
    (hcalls : calls ≠ []) : failure.category = .internal := by
  rw [run_run_recorded] at h
  obtain ⟨prepared, s₁, hprepared⟩ :=
    exists_run_eq (prepare files source render recipe request stamp) s
  rw [hprepared] at h
  cases prepared with
  | error cause =>
      cases h
      exact absurd rfl hcalls
  | ok prepared =>
      obtain ⟨drafts, patch⟩ := prepared
      dsimp only at h
      rw [run_finish_recorded] at h
      split at h
      · cases h
      · obtain ⟨⟨result, made⟩, s₂, hperformed⟩ :=
          exists_run_eq ((files.recorded.performAll
            (plan recipe request.root drafts patch.content)).run []) s₁
        rw [hperformed] at h
        cases result with
        | ok _ => cases h
        | error cause =>
            cases h
            have hplain :
                ((files.performAll (plan recipe request.root drafts patch.content)).run s₁).1 =
                  .error failure := by
              rw [← map_fst_performAll_recorded files _ [], StateT.run_map, hperformed]
              rfl
            exact hfiles.category_of_performAll hplain

namespace Command

section Record

variable {m : Type → Type} [Monad m]

/-- A host beside a record of the changes asked of its files. -/
def Host.recorded (host : Host m) : Host (StateT (List Call) m) where
  files := host.files.recorded
  render := host.render
  print text := StateT.lift (host.print text)
  listTemplates root := StateT.lift (host.listTemplates root)
  isFile path := StateT.lift (host.isFile path)
  directory? path := StateT.lift (host.directory? path)
  bytes? path := StateT.lift (host.bytes? path)
  workingDirectory := StateT.lift host.workingDirectory

theorem Host.files_recorded (host : Host m) : host.recorded.files = host.files.recorded := rfl

theorem Host.render_recorded (host : Host m) : host.recorded.render = host.render := rfl

theorem Host.print_recorded (host : Host m) (text : String) :
    host.recorded.print text = StateT.lift (host.print text) := rfl

theorem announcement_recorded (channel : Channel) (root : Path) (source : TemplateSource m) :
    announcement channel root source.recorded = announcement channel root source := rfl

variable [LawfulMonad m] (host : Host m) (channel : Channel) (settings : Settings)
  (now : Circumstances) (options : AuthOptions)

theorem lift_pure {α : Type} (a : α) :
    (StateT.lift (pure a : m α) : StateT (List Call) m α) = pure a :=
  monadLift_pure (m := m) (n := StateT (List Call) m) a

theorem lift_bind {α β : Type} (x : m α) (f : α → m β) :
    (StateT.lift (x >>= f) : StateT (List Call) m β) =
      StateT.lift x >>= fun a => StateT.lift (f a) :=
  monadLift_bind (m := m) (n := StateT (List Call) m) x f

/-! ## The checks ask for no change -/

theorem chosenTemplates_recorded :
    chosenTemplates host.recorded options settings =
      (chosenTemplates host options settings).recorded := by
  unfold chosenTemplates
  cases options.templates.or settings.templates with
  | some directory => rfl
  | none =>
      simp only [TemplateSource.auth, TemplateSource.ofTree, TemplateSource.recorded, lift_pure]

theorem chosenRoot_recorded :
    chosenRoot host.recorded options settings = StateT.lift (chosenRoot host options settings) := by
  unfold chosenRoot
  cases options.root with
  | some directory => rw [lift_pure]
  | none =>
      simp only [Host.recorded, lift_bind]
      apply bind_congr
      intro working
      cases working with
      | error message => rw [lift_pure]
      | ok working => cases settings.root <;> rw [lift_pure]

theorem findRoot_recorded :
    findRoot host.recorded options settings = StateT.lift (findRoot host options settings) := by
  simp only [findRoot, chosenRoot_recorded, lift_bind]
  apply bind_congr
  intro chosen
  cases chosen with
  | error trouble => rw [lift_pure]
  | ok root =>
      simp only [Host.recorded, lift_bind]
      apply bind_congr
      intro directory
      cases directory <;> rw [lift_pure]

theorem discover_recorded (files : Filesystem m) (root : Path) :
    Project.discover files.recorded root = StateT.lift (Project.discover files root) := by
  simp only [Project.discover, recorded, lift_bind]
  apply bind_congr
  intro present
  cases present with
  | false => simp only [Bool.false_eq_true, if_false, lift_pure]
  | true =>
      simp only [if_true, lift_bind]
      apply bind_congr
      intro read
      cases read <;> rw [lift_pure]

theorem prepare_recorded :
    prepare host.recorded options settings = StateT.lift (prepare host options settings) := by
  simp only [prepare, findRoot_recorded, lift_bind]
  apply bind_congr
  intro found
  cases found with
  | error trouble => rw [lift_pure]
  | ok root =>
      dsimp only
      cases checkMigrations (options.migrations.getD settings.migrations) with
      | error trouble => rw [lift_pure]
      | ok _ =>
          cases AttributeSet.ofSpecs options.attributes with
          | error failure => rw [lift_pure]
          | ok attributes =>
              simp only [Host.recorded, discover_recorded, lift_bind]
              apply bind_congr
              intro discovered
              cases discovered <;> rw [lift_pure]

theorem printAll_recorded (texts : List String) :
    printAll host.recorded texts = StateT.lift (printAll host texts) := by
  induction texts with
  | nil => rw [printAll, printAll, lift_pure]
  | cons text texts ih =>
      simp only [printAll, ih, Host.print_recorded, lift_bind]
      apply bind_congr
      intro printed
      cases printed with
      | error refusal => rw [lift_pure]
      | ok _ => simp only [lift_bind, lift_pure]

theorem map_fst_generate_recorded (calls : List Call) :
    Prod.fst <$> (generate host.recorded channel settings now options).run calls =
      generate host channel settings now options := by
  simp only [generate, prepare_recorded, StateT.run_bind, StateT.run_lift, bind_assoc, pure_bind,
    map_bind]
  apply bind_congr
  intro prepared
  cases prepared with
  | error trouble => simp only [StateT.run_pure, map_pure]
  | ok prepared =>
      simp only [chosenTemplates_recorded, announcement_recorded, printAll_recorded,
        StateT.run_bind, StateT.run_lift, bind_assoc, pure_bind, map_bind]
      apply bind_congr
      rintro ⟨out, announced⟩
      cases announced with
      | error trouble => simp only [StateT.run_pure, map_pure]
      | ok _ =>
          -- only the run itself can lengthen the record
          simp only [StateT.run_bind, map_bind]
          rw [← Run.map_fst_run_recorded host.files (chosenTemplates host options settings)
            host.render (Recipe.auth prepared.migrations) prepared.request now.stamp calls,
            bind_map_left]
          apply bind_congr
          rintro ⟨result, calls'⟩
          cases result with
          | error failure => simp only [StateT.run_pure, map_pure]
          | ok report =>
              simp only [StateT.run_bind, StateT.run_lift, bind_assoc, pure_bind, map_bind,
                StateT.run_pure, map_pure]

end Record

section State

variable {σ : Type} (host : Host (StateM σ)) (channel : Channel) (settings : Settings)
  (now : Circumstances) (options : AuthOptions)

theorem run_bind_lift {α β : Type} {x : StateM σ α} {f : α → StateT (List Call) (StateM σ) β}
    {calls : List Call} {s s' : σ} {a : α} (h : x.run s = (a, s')) :
    ((StateT.lift x >>= f).run calls).run s = ((f a).run calls).run s' := by
  rw [StateT.run_bind_lift, Run.run_bind_of_run_eq h]

theorem run_generate_recorded (calls : List Call) (s : σ) :
    ((generate host.recorded channel settings now options).run calls).run s =
      match (prepare host options settings).run s with
      | (.error trouble, s) => ((("", .error trouble), calls), s)
      | (.ok prepared, s) =>
        let source := chosenTemplates host options settings
        match (printAll host (announcement channel prepared.request.root source)).run s with
        | ((out, .error trouble), s) => (((out, .error trouble), calls), s)
        | ((out, .ok ()), s) =>
          match ((run host.files.recorded source.recorded host.render
              (Recipe.auth prepared.migrations) prepared.request now.stamp).run calls).run s with
          | ((.error failure, calls), s) => (((out, .error (.generation failure)), calls), s)
          | ((.ok report, calls), s) =>
            let printed := (printAll host (channel.report now.runId report)).run s
            (((out ++ printed.1.1, printed.1.2), calls), printed.2) := by
  obtain ⟨prepared, s₁, hprepared⟩ := Run.exists_run_eq (prepare host options settings) s
  rw [generate, prepare_recorded, run_bind_lift hprepared, hprepared]
  cases prepared with
  | error trouble => rfl
  | ok prepared =>
      dsimp only
      rw [chosenTemplates_recorded, announcement_recorded, printAll_recorded]
      obtain ⟨⟨out, announced⟩, s₂, hannounced⟩ :=
        Run.exists_run_eq (printAll host (announcement channel prepared.request.root
          (chosenTemplates host options settings))) s₁
      rw [run_bind_lift hannounced, hannounced]
      cases announced with
      | error trouble => rfl
      | ok _ =>
          dsimp only
          obtain ⟨⟨result, calls'⟩, s₃, hresult⟩ :=
            Run.exists_run_eq ((run host.files.recorded
              (chosenTemplates host options settings).recorded host.render
              (Recipe.auth prepared.migrations) prepared.request now.stamp).run calls) s₂
          rw [Host.files_recorded, Host.render_recorded, StateT.run_bind,
            Run.run_bind_of_run_eq hresult, hresult]
          cases result with
          | error failure => rfl
          | ok report =>
              obtain ⟨printed, s₄, hprinted⟩ :=
                Run.exists_run_eq (printAll host (channel.report now.runId report)) s₃
              dsimp only
              rw [printAll_recorded, run_bind_lift hprinted, hprinted]
              rfl

theorem category_of_printAll {texts : List String} {s : σ} {trouble : Trouble}
    (h : ((printAll host texts).run s).1.2 = .error trouble) : trouble.category = .internal := by
  induction texts generalizing s with
  | nil => cases h
  | cons text texts ih =>
      obtain ⟨printed, s', hprinted⟩ := Run.exists_run_eq (host.print text) s
      rw [printAll, Run.run_bind_of_run_eq hprinted] at h
      cases printed with
      | error refusal =>
          cases h
          rfl
      | ok _ => exact ih h

/-- A failed command that asked for a change has an internal trouble. -/
theorem category_of_calls_ne_nil (hfiles : host.files.FailsPlainly) {s s' : σ} {out : String}
    {trouble : Trouble} {calls : List Call}
    (h : ((generate host.recorded channel settings now options).run []).run s =
      (((out, .error trouble), calls), s'))
    (hcalls : calls ≠ []) : trouble.category = .internal := by
  rw [run_generate_recorded] at h
  obtain ⟨prepared, s₁, hprepared⟩ := Run.exists_run_eq (prepare host options settings) s
  rw [hprepared] at h
  cases prepared with
  | error cause =>
      cases h
      exact absurd rfl hcalls
  | ok prepared =>
      dsimp only at h
      split at h
      · cases h
        exact absurd rfl hcalls
      · split at h
        next hrun =>
          cases h
          have hinternal := Run.category_of_calls_ne_nil hfiles _ host.render _ _ _ hrun hcalls
          rw [Trouble.category, hinternal, Trouble.categoryOf]
        next => exact category_of_printAll host (congrArg (·.1.1.2) h)

/-- The exit code of a failed command and its calls: a code other than 1 stands for no calls, and
after a call the code is 1. -/
def TellsUntouched (result : Except Trouble Unit) (calls : List Call) : Prop :=
  ∀ trouble, result = .error trouble →
    (trouble.exitCode ∈ [2, 3, 4] → calls = []) ∧ (calls ≠ [] → trouble.exitCode = 1)

/-- A command whose exit code is 2, 3 or 4 did not ask for any change, and one that fails after a
change was asked for has the exit code 1. This holds for every host: whatever templates are found,
however they are rendered, and whatever the output refuses, before the run or after it. The record
of the calls does not alter what the command does. -/
theorem exit_codes_tell_untouched (hfiles : host.files.FailsPlainly) (s : σ) :
    let command := ((generate host.recorded channel settings now options).run []).run s
    (command.1.1, command.2) = (generate host channel settings now options).run s ∧
      TellsUntouched command.1.1.2 command.1.2 := by
  intro command
  refine ⟨?_, fun trouble htrouble => ?_⟩
  · rw [← map_fst_generate_recorded host channel settings now options [], StateT.run_map]
    rfl
  · have hcode (hcalls : command.1.2 ≠ []) : trouble.exitCode = 1 := by
      have hinternal : trouble.category = .internal :=
        category_of_calls_ne_nil host channel settings now options hfiles
          (Prod.ext (Prod.ext (Prod.ext rfl htrouble) rfl) rfl) hcalls
      rw [Trouble.exitCode, hinternal, TroubleCategory.exitCode]
    refine ⟨fun hmem => ?_, hcode⟩
    by_contra hcalls
    rw [hcode hcalls] at hmem
    exact absurd hmem (by decide)

end State

/-- A project whose setup file holds no anchor is not touched; where a file stands in the way of a
directory, the trouble is internal and comes after a call. -/
theorem exit_codes_on_a_disk :
    let disk (setup : String) : Disk :=
      ⟨.directory
        [("shop", .directory
          [("actions", .directory [("app.go", .file setup.toUTF8)]), ("public", .file .empty)]),
          ("templates", .directory [("public", .directory [("robots.txt", .file .empty)])])],
        ["shop"]⟩
    let options : AuthOptions := ⟨[], none, none, some "/templates", false⟩
    let now : Circumstances := ⟨[], false, false, ⟨"20250102030405"⟩, ""⟩
    let outcome (setup : String) :=
      ((generate Host.ofDisk.recorded ⟨.plain, false, true⟩ .default now options).run []).run
        (disk setup)
    let unanchored := outcome "package actions\n"
    let blocked := outcome "if app == nil \x7b\n\x7d\n"
    (unanchored.1.1.2 = .error (.generation
      (.anchorNotFound "actions/app.go" ["appOnce.Do(func() \x7b", "if app == nil \x7b"])) ∧
      unanchored.1.2 = []) ∧
    (blocked.1.1.2 = .error (.generation (.filesystem "/shop/public"
      "Failed to create directory: File exists (os error 17)")) ∧
      blocked.1.2.length = 1) := by
  intro disk options now outcome unanchored blocked
  have hunanchored : unanchored.1.1.2 = .error (.generation
      (.anchorNotFound "actions/app.go" ["appOnce.Do(func() \x7b", "if app == nil \x7b"])) := by
    decide +kernel
  have htells : TellsUntouched unanchored.1.1.2 unanchored.1.2 :=
    (exit_codes_tell_untouched Host.ofDisk ⟨.plain, false, true⟩ .default now options
      failsPlainly_ofDisk (disk "package actions\n")).2
  obtain ⟨huntouched, -⟩ := htells _ hunanchored
  have hcalls : unanchored.1.2 = [] := huntouched (by decide)
  refine ⟨⟨hunanchored, hcalls⟩, ?_, ?_⟩
  · decide +kernel
  · decide +kernel

end Command

end Scaffold
