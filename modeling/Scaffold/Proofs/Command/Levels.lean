import Scaffold.Proofs.Command.Reading
/-!
# Silence and detail

Silence and detail over the levels of a command line. At one level they exclude each other. The
levels are checked one by one, before the common options of an inner level are completed by those of
the level around it, so a command line that asks for silence at one level and for detail at another
is accepted with both.
-/

namespace Scaffold.Command

open Run (bind_eq_ok_iff)

/-- The options named at a level, those named so far first, and at the levels in it. An option
that waits for its value takes the next argument, be it a command. -/
def optionsByLevel (level : Level) (named : List Opt) (waits : Bool) :
    List String → List (List Opt)
  | [] => [named]
  | text :: rest =>
    if text = "--" then [named]
    else
      match if waits then none else level.subcommand? text with
      | some (.enter inner) => named :: optionsByLevel inner [] false rest
      | some .help | none =>
        optionsByLevel level (named ++ level.optionsOf text) (level.waits text) rest

/-- What was given at some levels together: silence or detail if a level named it, and no level
named both. -/
structure Given.Sums (given : Given) (levels : List (List Opt)) : Prop where
  has : ∀ o, o = .quiet ∨ o = .verbose → (given.Has o ↔ ∃ named ∈ levels, o ∈ named)
  apart : ∀ named ∈ levels, ¬ (.quiet ∈ named ∧ .verbose ∈ named)

namespace Given

variable {given inner outer : Given} {named : List Opt} {levels : List (List Opt)}

theorem sums_singleton (hgiven : ∀ o, o = .quiet ∨ o = .verbose → (given.Has o ↔ o ∈ named))
    (hconflict : checkConflict given = .ok ()) : Sums given [named] where
  has o ho := by rw [hgiven o ho]; simp
  apart other hother := by
    obtain rfl := List.mem_singleton.mp hother
    rw [← hgiven .quiet (.inl rfl), ← hgiven .verbose (.inr rfl)]
    exact checkConflict_eq_ok_iff.mp hconflict

theorem Sums.within (h : Sums inner levels) (houter : Sums outer [named]) :
    Sums (inner.within outer) (named :: levels) where
  has o ho := by
    rw [has_within ho, h.has o ho, houter.has o ho]
    simp [or_comm]
  apart := List.forall_mem_cons.mpr ⟨houter.apart named List.mem_cons_self, h.apart⟩

end Given

variable {vars : OptionVariables} {level : Level} {r : Reading} {named : List Opt}
  {x inner : Given × Action} {args : List String}

theorem endLevel_eq_ok (h : endLevel vars level r = .ok x) :
    ∃ s, r.settle level = .ok s ∧ addVariables vars level s.given = .ok x.1 ∧
      checkConflict x.1 = .ok () := by
  obtain ⟨s, hs, h⟩ := bind_eq_ok_iff.mp h
  obtain ⟨given, hgiven, h⟩ := bind_eq_ok_iff.mp h
  cases hneeds : level.needsSubcommand with
  | true =>
      rw [hneeds, Bool.true_and, if_pos rfl] at h
      split at h <;> cases h
  | false =>
      rw [hneeds, Bool.false_and, Bool.false_and, if_neg Bool.false_ne_true] at h
      obtain ⟨_, hconflict, h⟩ := bind_eq_ok_iff.mp h
      obtain ⟨action, -, h⟩ := bind_eq_ok_iff.mp h
      obtain rfl := Except.ok.inj h
      exact ⟨s, hs, hgiven, hconflict⟩

theorem sums_of_endLevel (h : endLevel vars level r = .ok x)
    (hmet : ∀ o, r.Meets o ↔ o ∈ named) : x.1.Sums [named] := by
  obtain ⟨s, hs, hgiven, hconflict⟩ := endLevel_eq_ok h
  obtain ⟨-, -, hsettled⟩ := Reading.settle_eq_ok hs
  refine Given.sums_singleton (fun o ho => ?_) hconflict
  rw [has_addVariables hgiven ho, hsettled, hmet]

theorem sums_of_endOuter {levels : List (List Opt)} (h : endOuter level r inner = .ok x)
    (hmet : ∀ o, r.Meets o ↔ o ∈ named) (hinner : inner.1.Sums levels) :
    x.1.Sums (named :: levels) := by
  obtain ⟨s, hs, h⟩ := bind_eq_ok_iff.mp h
  obtain ⟨_, hconflict, h⟩ := bind_eq_ok_iff.mp h
  obtain rfl := Except.ok.inj h
  obtain ⟨-, -, hsettled⟩ := Reading.settle_eq_ok hs
  exact hinner.within (Given.sums_singleton (fun o _ => (hsettled o).trans (hmet o)) hconflict)

theorem sums_of_readLevel_of_literal (hliteral : r.literal = true)
    (h : readLevel vars level r args = .ok x) (hmet : ∀ o, r.Meets o ↔ o ∈ named) :
    x.1.Sums [named] := by
  induction args generalizing r with
  | nil => exact sums_of_endLevel h hmet
  | cons text rest ih =>
      have hcommand : commandAt? level r text = none := by simp [commandAt?, hliteral]
      rw [readLevel, hcommand] at h
      obtain ⟨next, hnext, h⟩ := bind_eq_ok_iff.mp h
      have hfollows := Reading.follows_takeArgument_of_literal hliteral hnext
      refine ih (hfollows.literal.trans hliteral) h fun o => ?_
      rw [hfollows.meets, hmet]
      simp

theorem sums_of_readLevel (hliteral : r.literal = false) (h : readLevel vars level r args = .ok x)
    (hmet : ∀ o, r.Meets o ↔ o ∈ named) :
    x.1.Sums (optionsByLevel level named r.awaitsValue args) := by
  induction args generalizing level r named x with
  | nil => exact sums_of_endLevel h hmet
  | cons text rest ih =>
      have hcommand : commandAt? level r text =
          if r.awaitsValue = true then none else level.subcommand? text := by
        simp [commandAt?, hliteral]
      rw [readLevel, hcommand] at h
      unfold optionsByLevel
      by_cases htext : text = "--"
      · subst htext
        have hnone : (if r.awaitsValue = true then none else level.subcommand? "--") = none := by
          cases level <;> simp [Level.subcommand?]
        rw [hnone] at h
        obtain ⟨next, hnext, h⟩ := bind_eq_ok_iff.mp h
        rw [Reading.takeArgument_dashes hliteral] at hnext
        obtain rfl := Except.ok.inj hnext
        rw [if_pos rfl]
        exact sums_of_readLevel_of_literal rfl h hmet
      · rw [if_neg htext]
        split at h
        · cases h
        · next deeper hdeeper =>
            obtain ⟨inner, hinner, h⟩ := bind_eq_ok_iff.mp h
            rw [hdeeper]
            have hdeep : inner.1.Sums (optionsByLevel deeper [] false rest) :=
              ih rfl hinner fun o => iff_of_false (Reading.not_meets_start o) List.not_mem_nil
            exact sums_of_endOuter h hmet hdeep
        · next hnone =>
            obtain ⟨next, hnext, h⟩ := bind_eq_ok_iff.mp h
            have hfollows := Reading.follows_takeArgument hliteral htext hnext
            rw [hnone, ← hfollows.awaits]
            refine ih (hfollows.literal.trans hliteral) h fun o => ?_
            rw [hfollows.meets, hmet, List.mem_append]

/-- A command line that is accepted asks for silence, or for detail, exactly when one of its levels
does. No level asks for both, so it asks for both exactly when two different levels ask for one
each. -/
theorem quiet_with_detail_iff {invocation : Invocation} (h : parse vars args = .ok invocation) :
    let levels := optionsByLevel .program [] false args
    let options := invocation.options
    (∀ named ∈ levels, ¬ (.quiet ∈ named ∧ .verbose ∈ named)) ∧
    (options.quiet = true ↔ ∃ named ∈ levels, .quiet ∈ named) ∧
    (0 < options.verbose ↔ ∃ named ∈ levels, .verbose ∈ named) ∧
    (options.quiet = true ∧ 0 < options.verbose ↔
      ∃ a ∈ levels, ∃ b ∈ levels, a ≠ b ∧ .quiet ∈ a ∧ .verbose ∈ b) := by
  intro levels options
  obtain ⟨⟨given, action⟩, hread, h⟩ := bind_eq_ok_iff.mp h
  obtain rfl := Except.ok.inj h
  have hsums : given.Sums levels := sums_of_readLevel rfl hread fun o =>
    iff_of_false (Reading.not_meets_start o) List.not_mem_nil
  have hquiet : options.quiet = true ↔ ∃ named ∈ levels, .quiet ∈ named :=
    hsums.has .quiet (.inl rfl)
  have hverbose : 0 < options.verbose ↔ ∃ named ∈ levels, .verbose ∈ named :=
    hsums.has .verbose (.inr rfl)
  refine ⟨hsums.apart, hquiet, hverbose, ?_⟩
  rw [hquiet, hverbose]
  constructor
  · rintro ⟨⟨a, ha, hqa⟩, b, hb, hvb⟩
    exact ⟨a, ha, b, hb, fun hab => hsums.apart b hb ⟨hab ▸ hqa, hvb⟩, hqa, hvb⟩
  · rintro ⟨a, ha, b, hb, -, hqa, hvb⟩
    exact ⟨⟨a, ha, hqa⟩, b, hb, hvb⟩

/-- A word after an option that waits is its value and no command, and behind two dashes nothing is
an option. -/
theorem quiet_with_detail_around_a_value :
    let args := ["-vc", "auth", "auth", "-q", "--", "-v"]
    let options : GlobalOptions := ⟨1, true, false, some "auth", .auto⟩
    let invocation : Invocation := ⟨options, .auth ⟨["-v"], none, none, none, false⟩⟩
    parse {} args = .ok invocation ∧
      optionsByLevel .program [] false args = [[.verbose, .config], [.quiet]] ∧
      options.quiet = true ∧ 0 < options.verbose := by
  intro args options invocation
  have hparse : parse {} args = .ok invocation := by decide +kernel
  have hlevels : optionsByLevel .program [] false args = [[.verbose, .config], [.quiet]] := by
    decide +kernel
  obtain ⟨-, -, -, hboth⟩ := quiet_with_detail_iff hparse
  rw [hlevels] at hboth
  exact ⟨hparse, hlevels, hboth.mpr ⟨[.quiet], by decide, [.verbose, .config], by decide⟩⟩

/-- What one level refuses, two levels accept. -/
theorem quiet_with_detail_at_two_levels :
    parse {} ["auth", "-v", "-q"] = .error .conflict ∧
      parse {} ["-v", "auth", "-q"] =
        .ok ⟨⟨1, true, false, none, .auto⟩, .auth ⟨[], none, none, none, false⟩⟩ :=
  ⟨by decide +kernel, by decide +kernel⟩

end Scaffold.Command
