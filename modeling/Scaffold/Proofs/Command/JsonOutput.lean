import Scaffold.Command.Program
import Scaffold.Proofs.Json
import Scaffold.Proofs.Run.Phases
/-!
# JSON output

What a command prints where the output is a JSON document. A command that succeeds prints one
document and a line feed, except that the question for the path of the settings is left without an
answer. One that fails prints nothing, unless the output itself fails in the middle of the document.
-/

namespace Scaffold.Command

section

variable {m : Type → Type} [Monad m]

/-- A command that can be carried out: its command line is understood and its settings are
loaded. -/
structure Ready where
  invocation : Invocation
  settings : Settings
  environment : Settings.Variables
  deriving DecidableEq

/-- Everything before the command itself, or the outcome of a call that does not come to it. -/
def getReady (host : Host m) (now : Circumstances) (args : List String) :
    m (Except Outcome Ready) := do
  let working := match ← host.workingDirectory with
    | .ok path => path
    | .error _ => ⟨""⟩
  let environment ← completeVariables host working now.environment
  match parse (optionVariables environment) args with
  | .error e => return .error (← refuse host e)
  | .ok invocation =>
    let options := invocation.options
    match ← loadSettings host working environment options with
    | .error fault =>
      return .error (failed { now with environment } options options.noColor "" (.ofFault fault))
    | .ok settings => return .ok ⟨invocation, settings, environment⟩

namespace Ready

def channel (ready : Ready) (now : Circumstances) : Channel :=
  .ofOptions ready.invocation.options ready.settings now.outTerminal

def conclude (ready : Ready) (now : Circumstances) : String × Except Trouble Unit → Outcome
  | (out, .ok ()) => ⟨0, out, ""⟩
  | (out, .error trouble) =>
    if ready.invocation.action.isScript then aborted out
    else
      failed { now with environment := ready.environment } ready.invocation.options
        (ready.invocation.options.noColor || ready.settings.noColor) out trouble

def carryOut (host : Host m) (now : Circumstances) (ready : Ready) :
    m (String × Except Trouble Unit) :=
  perform host (ready.channel now) ready.settings { now with environment := ready.environment }
    ready.invocation.action

end Ready

theorem program_eq_getReady_carryOut [LawfulMonad m] (host : Host m) (now : Circumstances)
    (args : List String) :
    program host now args = (do
      match ← getReady host now args with
      | .error outcome => return outcome
      | .ok ready => return ready.conclude now (← ready.carryOut host now)) := by
  simp only [program, getReady, bind_assoc]
  apply bind_congr
  intro working
  apply bind_congr
  intro environment
  cases parse (optionVariables environment) args with
  | error e => simp only [bind_assoc, pure_bind, bind_pure]
  | ok invocation =>
      simp only [invoke, bind_assoc]
      apply bind_congr
      intro loaded
      cases loaded with
      | error fault => simp only [pure_bind]
      | ok settings =>
          simp only [pure_bind]
          apply bind_congr
          rintro ⟨out, result⟩
          cases result <;> rfl

end

namespace Channel

variable {channel : Channel} (h : channel.isJson = true)

theorem isJson_ofOptions_iff (options : GlobalOptions) (settings : Settings) (terminal : Bool) :
    (ofOptions options settings terminal).isJson = true ↔
      options.format = .json ∨
        options.format = .auto ∧ configuredFormat settings.format = .json := by
  unfold ofOptions isJson requestedFormat
  cases options.format with
  | auto => cases configuredFormat settings.format <;> cases terminal <;> simp
  | _ => simp

include h

theorem line_of_isJson (text : String) : channel.line text = [] := by
  rw [line, if_pos]
  rw [isSilent, h, Bool.or_true]

theorem report_of_isJson (runId : String) (report : Report) :
    channel.report runId report = [document (reportJson runId report)] := by
  rw [Channel.report, if_pos h]

theorem settings_of_isJson (settings : Settings) :
    channel.settings settings = [document settings.toJson] := by
  rw [Channel.settings, if_pos h]

end Channel

theorem Trouble.exitCode_ne_zero (trouble : Trouble) : trouble.exitCode ≠ 0 := by
  unfold exitCode
  cases trouble.category <;> decide

theorem not_isDocumentLine_empty (document : Json) : ¬ Json.IsDocumentLine "" document := by
  rintro ⟨hspells, -⟩
  obtain ⟨cs, hcs⟩ := Json.exists_eq_opening_cons hspells
  cases hcs

/-! ## A printed document -/

section

variable {σ : Type} (host : Host (StateM σ))

def Host.TakesAll : Prop :=
  ∀ text s, ((host.print text).run s).1 = .ok ()

/-- What printing a document comes to: all of it was taken, or only a beginning. -/
inductive PrintsDocument (document : Json) : String × Except Trouble Unit → Prop
  | whole : PrintsDocument document (Channel.document document, .ok ())
  | torn (htakes : ¬ host.TakesAll) (taken : Nat) (reason : String) :
      PrintsDocument document
        (String.ofList ((Channel.document document).toList.take taken), .error (.ofSystem reason))

theorem printsDocument_printAll (document : Json) (s : σ) :
    PrintsDocument host document ((printAll host [Channel.document document]).run s).1 := by
  obtain ⟨printed, s', hprinted⟩ := Run.exists_run_eq (host.print (Channel.document document)) s
  rw [printAll, Run.run_bind_of_run_eq hprinted]
  cases printed with
  | error refusal =>
      refine .torn (fun htakes => ?_) refusal.taken refusal.reason
      have htaken := htakes (Channel.document document) s
      rw [hprinted] at htaken
      cases htaken
  | ok _ =>
      have hempty : Channel.document document ++ "" = Channel.document document :=
        String.append_empty
      change PrintsDocument host document (Channel.document document ++ "", .ok ())
      rw [hempty]
      exact .whole

theorem generate_of_isJson {channel : Channel} (h : channel.isJson = true) (settings : Settings)
    (now : Circumstances) (options : AuthOptions) (s : σ) :
    (∃ trouble, ((generate host channel settings now options).run s).1 = ("", .error trouble)) ∨
      ∃ report, PrintsDocument host (reportJson now.runId report)
        ((generate host channel settings now options).run s).1 := by
  obtain ⟨prepared, s₁, hprepared⟩ := Run.exists_run_eq (prepare host options settings) s
  rw [generate, Run.run_bind_of_run_eq hprepared]
  cases prepared with
  | error trouble => exact .inl ⟨trouble, rfl⟩
  | ok prepared =>
      -- the announcement is kept back, so nothing is printed before the report
      have hsilent : announcement channel prepared.request.root
          (chosenTemplates host options settings) = [] := Channel.line_of_isJson h _
      obtain ⟨result, s₂, hresult⟩ := Run.exists_run_eq
        (run host.files (chosenTemplates host options settings) host.render
          (Recipe.auth prepared.migrations) prepared.request now.stamp) s₁
      dsimp only
      rw [hsilent, printAll, pure_bind]
      dsimp only
      rw [Run.run_bind_of_run_eq hresult]
      cases result with
      | error failure => exact .inl ⟨.generation failure, rfl⟩
      | ok report =>
          obtain ⟨⟨out, printed⟩, s₃, hprinted⟩ := Run.exists_run_eq
            (printAll host (channel.report now.runId report)) s₂
          have hdocument := printsDocument_printAll host (reportJson now.runId report) s₂
          rw [← Channel.report_of_isJson h, hprinted] at hdocument
          dsimp only
          rw [Run.run_bind_of_run_eq hprinted]
          refine .inr ⟨report, ?_⟩
          rw [String.empty_append]
          exact hdocument

variable {host} {now : Circumstances} {ready : Ready}

theorem Ready.out_conclude (printed : String × Except Trouble Unit) :
    (ready.conclude now printed).out = printed.1 := by
  obtain ⟨out, trouble | _⟩ := printed
  · rw [conclude]
    cases ready.invocation.action.isScript <;> rfl
  · rfl

theorem Ready.exitCode_conclude_error (now : Circumstances)
    (hscript : ready.invocation.action.isScript = false) (out : String) (trouble : Trouble) :
    (ready.conclude now (out, .error trouble)).exitCode = trouble.exitCode := by
  rw [conclude, hscript]
  rfl

/-- A document is printed in full by a command that succeeds, and a beginning of it by one that
fails. -/
theorem PrintsDocument.conclude {document : Json} {printed : String × Except Trouble Unit}
    (h : PrintsDocument host document printed)
    (hscript : ready.invocation.action.isScript = false) :
    let outcome := ready.conclude now printed
    (outcome.exitCode ≠ 0 → ¬ host.TakesAll ∧ outcome.exitCode = 1 ∧
      ∃ rest, Json.IsDocumentLine (outcome.out ++ rest) document) ∧
    (outcome.exitCode = 0 → Json.IsDocumentLine outcome.out document) := by
  have hline : Json.IsDocumentLine (Channel.document document) document :=
    Json.isDocumentLine_toText document
  cases h with
  | whole => exact ⟨fun hcode => absurd rfl hcode, fun _ => hline⟩
  | torn htakes taken reason =>
      let trouble := Trouble.ofSystem reason
      let rest := String.ofList ((Channel.document document).toList.drop taken)
      have hcode := Ready.exitCode_conclude_error now hscript
        (String.ofList ((Channel.document document).toList.take taken)) trouble
      have hrest : String.ofList ((Channel.document document).toList.take taken) ++ rest =
          Channel.document document := by
        rw [← String.ofList_append, List.take_append_drop, String.ofList_toList]
      refine ⟨fun _ => ⟨htakes, hcode, rest, ?_⟩, fun hzero => ?_⟩
      · rw [Ready.out_conclude, hrest]
        exact hline
      · exact absurd (hcode.symm.trans hzero) trouble.exitCode_ne_zero

end

/-- Where the output is a JSON document, a command that succeeds prints exactly one document and a
line feed, unless it is asked for the path of the settings, to which it prints nothing at all. The
document is the report of the run or the settings. A command that fails prints nothing; only an
output that does not take all of the document leaves a beginning of it, with the exit code 1.
Whether the output is quiet makes no difference. -/
theorem json_document_printed_iff {σ : Type} (host : Host (StateM σ)) (now : Circumstances)
    (args : List String) {s : σ} {ready : Ready}
    (hready : ((getReady host now args).run s).1 = .ok ready)
    (hformat : ready.invocation.options.format = .json ∨
      ready.invocation.options.format = .auto ∧
        configuredFormat ready.settings.format = .json)
    (hshell : ∀ shell, ready.invocation.action ≠ .completions shell) :
    let outcome := ((program host now args).run s).1
    let action := ready.invocation.action
    (outcome.exitCode ≠ 0 → outcome.out = "" ∨
      ¬ host.TakesAll ∧ outcome.exitCode = 1 ∧
        ∃ document rest, Json.IsDocumentLine (outcome.out ++ rest) document) ∧
    (outcome.exitCode = 0 →
      ((∃ document, Json.IsDocumentLine outcome.out document) ↔ action ≠ .config .path)) ∧
    (∀ options, action = .auth options → outcome.exitCode = 0 →
      ∃ report, Json.IsDocumentLine outcome.out (reportJson now.runId report)) ∧
    (action = .config .list →
      (host.TakesAll → outcome.exitCode = 0) ∧
        (outcome.exitCode = 0 → Json.IsDocumentLine outcome.out ready.settings.toJson)) ∧
    (action = .config .path → outcome.exitCode = 0 ∧ outcome.out = "") := by
  intro outcome action
  obtain ⟨result, s₁, hresult⟩ := Run.exists_run_eq (getReady host now args) s
  obtain rfl : result = .ok ready := by rwa [hresult] at hready
  obtain ⟨printed, s₂, hprinted⟩ := Run.exists_run_eq (ready.carryOut host now) s₁
  have houtcome : outcome = ready.conclude now printed := by
    dsimp only [outcome]
    rw [program_eq_getReady_carryOut, Run.run_bind_of_run_eq hresult]
    dsimp only
    rw [Run.run_bind_of_run_eq hprinted]
    rfl
  have hjson : (ready.channel now).isJson = true :=
    (Channel.isJson_ofOptions_iff _ _ _).mpr hformat
  have hscript : ready.invocation.action.isScript = false := by
    cases haction : ready.invocation.action with
    | completions shell => exact absurd haction (hshell shell)
    | auth _ | config _ => rfl
  obtain rfl : printed = ((ready.carryOut host now).run s₁).1 := by rw [hprinted]
  rw [houtcome]
  unfold Ready.carryOut
  cases haction : action with
  | completions shell => exact absurd haction (hshell shell)
  | auth options =>
      rw [show ready.invocation.action = .auth options from haction, perform]
      rcases generate_of_isJson host hjson ready.settings
        { now with environment := ready.environment } options s₁ with
        ⟨trouble, heq⟩ | ⟨report, hprints⟩
      · have hcode := (Ready.exitCode_conclude_error now hscript "" trouble).trans_ne
          trouble.exitCode_ne_zero
        rw [heq]
        exact ⟨fun _ => .inl (Ready.out_conclude _), fun hzero => absurd hzero hcode,
          fun _ _ hzero => absurd hzero hcode, nofun, nofun⟩
      · obtain ⟨hfails, hsucceeds⟩ := hprints.conclude hscript
        exact ⟨fun hne => .inr ((hfails hne).imp_right (And.imp_right fun hrest => ⟨_, hrest⟩)),
          fun hzero => iff_of_true ⟨_, hsucceeds hzero⟩ nofun,
          fun _ _ hzero => ⟨report, hsucceeds hzero⟩, nofun, nofun⟩
  | config query =>
      rw [show ready.invocation.action = .config query from haction]
      cases query with
      | list =>
          rw [perform, Channel.settings_of_isJson hjson]
          obtain ⟨hfails, hsucceeds⟩ :=
            (printsDocument_printAll host ready.settings.toJson s₁).conclude hscript
          exact ⟨fun hne => .inr ((hfails hne).imp_right (And.imp_right fun hrest => ⟨_, hrest⟩)),
            fun hzero => iff_of_true ⟨_, hsucceeds hzero⟩ nofun, nofun,
            fun _ => ⟨fun htakes => not_not.mp fun hne => (hfails hne).1 htakes, hsucceeds⟩, nofun⟩
      | path =>
          have hnone : ¬ ∃ document, Json.IsDocumentLine "" document := fun ⟨document, hline⟩ =>
            not_isDocumentLine_empty document hline
          rw [perform, Channel.line_of_isJson hjson]
          exact ⟨fun hne => absurd rfl hne, fun _ => iff_of_false hnone fun hother => hother rfl,
            nofun, nofun, fun _ => ⟨rfl, rfl⟩⟩

theorem settings_printed_as_document :
    let disk : Disk := ⟨.directory [], []⟩
    let now : Circumstances := ⟨[("HOME", "/home")], false, false, ⟨"20250102030405"⟩, ""⟩
    let args := ["--quiet", "--output-format", "json", "config", "list"]
    let ready : Ready :=
      ⟨⟨⟨0, true, false, none, .json⟩, .config .list⟩, .default, now.environment⟩
    let outcome := ((program Host.ofDisk now args).run disk).1
    ((getReady Host.ofDisk now args).run disk).1 = .ok ready ∧
      outcome.exitCode = 0 ∧ Json.IsDocumentLine outcome.out Settings.default.toJson := by
  intro disk now args ready outcome
  have hready : ((getReady Host.ofDisk now args).run disk).1 = .ok ready := by decide +kernel
  obtain ⟨-, -, -, hlist, -⟩ :=
    json_document_printed_iff Host.ofDisk now args hready (.inl rfl) nofun
  have hcode := (hlist rfl).1 fun _ _ => rfl
  exact ⟨hready, hcode, (hlist rfl).2 hcode⟩

/-- The question for the path of the settings is a success without a document. -/
theorem path_answered_without_document :
    let disk : Disk := ⟨.directory [], []⟩
    let now : Circumstances := ⟨[("HOME", "/home")], false, false, ⟨"20250102030405"⟩, ""⟩
    let args := ["--output-format", "json", "config", "path"]
    let ready : Ready :=
      ⟨⟨⟨0, false, false, none, .json⟩, .config .path⟩, .default, now.environment⟩
    ((getReady Host.ofDisk now args).run disk).1 = .ok ready ∧
      ((program Host.ofDisk now args).run disk).1.exitCode = 0 ∧
      ¬ ∃ document,
        Json.IsDocumentLine ((program Host.ofDisk now args).run disk).1.out document := by
  intro disk now args ready
  have hout : ((program Host.ofDisk now args).run disk).1 = ⟨0, "", ""⟩ := by decide +kernel
  rw [hout]
  refine ⟨by decide +kernel, rfl, ?_⟩
  rintro ⟨document, hdocument⟩
  exact not_isDocumentLine_empty document hdocument

end Scaffold.Command
