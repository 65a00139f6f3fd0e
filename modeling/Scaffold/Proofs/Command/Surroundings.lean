import Scaffold.Proofs.Command.Spelling
/-!
# Arguments that name no common option

Reading them does not look at the common options given so far: whatever those are, they can as well
be added when the arguments have been read.
-/

namespace Scaffold.Command

open Run (bind_eq_ok_iff)

/-- The options that arguments name, up to two dashes. -/
def Level.named (level : Level) (args : List String) : List Opt :=
  (args.takeWhile (· ≠ "--")).flatMap level.optionsOf

/-! ## One option -/

namespace Given

variable {given outer : Given} {opt : Opt}

theorem addSwitch_within (hopt : opt.isCommon = false) :
    (given.within outer).addSwitch opt = (·.within outer) <$> given.addSwitch opt := by
  cases opt with
  | verbose | quiet | noColor | config | format => cases hopt
  | dryRun =>
      simp only [addSwitch, within]
      cases setSwitch given.dryRun <;> rfl
  | help | version | root | migrations | templates => rfl

theorem addValue_within (hopt : opt.isCommon = false) (value : String) :
    (given.within outer).addValue value opt = (·.within outer) <$> given.addValue value opt := by
  cases opt with
  | verbose | quiet | noColor | config | format => cases hopt
  | root =>
      simp only [addValue, within]
      cases setValue given.root false value <;> rfl
  | migrations =>
      simp only [addValue, within]
      cases setValue given.migrations true value <;> rfl
  | templates =>
      simp only [addValue, within]
      cases setValue given.templates false value <;> rfl
  | help | version | dryRun => rfl

theorem addWords_within (level : Level) (words : List String) :
    (given.within outer).addWords level words =
      (·.within outer) <$> given.addWords level words := by
  unfold addWords
  split
  · split <;> rfl
  · rfl

end Given

/-! ## One argument -/

namespace Reading

variable {vars : OptionVariables} {level : Level} {r r' : Reading} {outer : Given} {opt : Opt}

/-- The state in which these common options were given before. -/
def under (r : Reading) (outer : Given) : Reading :=
  { r with given := r.given.within outer }

@[simp]
theorem under_pending (r : Reading) (outer : Given) : (r.under outer).pending = r.pending := rfl

@[simp]
theorem under_literal (r : Reading) (outer : Given) : (r.under outer).literal = r.literal := rfl

@[simp]
theorem under_awaitsValue (r : Reading) (outer : Given) :
    (r.under outer).awaitsValue = r.awaitsValue := rfl

@[simp]
theorem under_wordCount (r : Reading) (outer : Given) :
    (r.under outer).wordCount = r.wordCount := rfl

@[simp]
theorem under_strayFault (r : Reading) (outer : Given) (level : Level) (word : String) :
    (r.under outer).strayFault level word = r.strayFault level word := rfl

def IsFree (r : Reading) : Prop :=
  ∀ opt : Opt, opt.isCommon = true → ¬ r.Meets opt

theorem Follows.isFree {options : List Opt} {waits : Bool} (h : Follows r r' options waits)
    (hr : r.IsFree) (hoptions : ∀ opt ∈ options, opt.isCommon = false) : r'.IsFree := by
  intro opt hcommon hmeets
  rcases (h.meets opt).mp hmeets with hmeets | hmem
  · exact hr opt hcommon hmeets
  · exact Bool.false_ne_true ((hoptions opt hmem).symm.trans hcommon)

theorem IsFree.settle_under (hr : r.IsFree) :
    (r.under outer).settle level = (·.under outer) <$> r.settle level := by
  cases hpending : r.pending with
  | nothing => simp [settle, under, hpending]
  | words words =>
      simp only [settle, under, hpending, Given.addWords_within]
      cases r.given.addWords level words <;> rfl
  | option opt value =>
      cases value with
      | none =>
          simp only [settle, under, hpending]
          rfl
      | some value =>
          have hopt : opt.isCommon = false :=
            Bool.eq_false_iff.mpr fun hcommon => hr opt hcommon (.inr ⟨_, hpending⟩)
          simp only [settle, under, hpending, Given.addValue_within hopt]
          cases r.given.addValue value opt <;> rfl

theorem IsFree.outcome_under (hr : r.IsFree) :
    (r.under outer).outcome level = (·.within outer) <$> r.outcome level := by
  rw [outcome, outcome, hr.settle_under, bind_map_left, map_bind]
  rfl

theorem IsFree.takeOption_under (hr : r.IsFree) (hopt : opt.isCommon = false) :
    (r.under outer).takeOption level opt = (·.under outer) <$> r.takeOption level opt := by
  rw [takeOption_eq, takeOption_eq, hr.outcome_under, bind_map_left, map_bind]
  refine bind_congr fun given => ?_
  cases opt.takesValue with
  | true => rfl
  | false =>
      simp only [Bool.false_eq_true, if_false, Given.addSwitch_within hopt, bind_map_left, map_bind]
      rfl

theorem IsFree.takeAttached_under (hr : r.IsFree) (hopt : opt.isCommon = false) (value : String) :
    (r.under outer).takeAttached level opt value =
      (·.under outer) <$> r.takeAttached level opt value := by
  cases htakes : opt.takesValue with
  | false =>
      simp only [takeAttached, htakes]
      rfl
  | true =>
      simp only [takeAttached_eq htakes, hr.outcome_under, bind_map_left, map_bind,
        Given.addValue_within hopt, bind_assoc]
      rfl

theorem IsFree.takeLong_under (hr : r.IsFree) {name : String}
    (hname : ∀ opt ∈ level.longOption? name, opt.isCommon = false) (attached : Option String) :
    (r.under outer).takeLong level name attached =
      (·.under outer) <$> r.takeLong level name attached := by
  unfold takeLong
  split
  · rfl
  · next opt hopt => exact hr.takeOption_under (hname opt hopt)
  · next opt value hopt => exact hr.takeAttached_under (hname opt hopt) value

theorem IsFree.takeLetters_under (hr : r.IsFree) {letters : List Char}
    (hletters : ∀ opt ∈ level.optionsOfLetters letters, opt.isCommon = false) :
    (r.under outer).takeLetters level letters =
      (·.under outer) <$> r.takeLetters level letters := by
  induction letters generalizing r with
  | nil => rfl
  | cons letter letters ih =>
      unfold Level.optionsOfLetters at hletters
      simp only [takeLetters]
      split
      · rfl
      · next opt hopt =>
          rw [hopt] at hletters
          cases htakes : opt.takesValue with
          | true =>
              simp only [htakes, if_true, List.forall_mem_singleton] at hletters ⊢
              split
              · exact hr.takeOption_under hletters
              · exact hr.takeAttached_under hletters _
              · exact hr.takeAttached_under hletters _
          | false =>
              simp only [htakes, Bool.false_eq_true, if_false, List.forall_mem_cons] at hletters ⊢
              rw [hr.takeOption_under hletters.1, bind_map_left, map_bind]
              cases hnext : r.takeOption level opt with
              | error e => rfl
              | ok next =>
                  exact ih ((follows_takeOption hnext).isFree hr (by simp [hletters.1])) hletters.2

theorem IsFree.takeWord_under (hr : r.IsFree) (word : String) :
    (r.under outer).takeWord level word = (·.under outer) <$> r.takeWord level word := by
  simp only [takeWord, under_wordCount, under_pending, under_strayFault, hr.settle_under,
    bind_map_left]
  split
  · split
    · rfl
    · rw [map_bind]
      rfl
  · rfl

theorem takeValue_under (r : Reading) (outer : Given) (value : String) :
    (r.under outer).takeValue value = (r.takeValue value).under outer := by
  simp only [takeValue, under_pending]
  split <;> rfl

/-- An argument that names no common option does not look at those given before. -/
theorem IsFree.takeArgument_under (hr : r.IsFree) {text : String}
    (htext : r.literal = false → ∀ opt ∈ level.optionsOf text, opt.isCommon = false) :
    takeArgument level (r.under outer) text = (·.under outer) <$> takeArgument level r text := by
  simp only [takeArgument, under_literal, under_awaitsValue, takeValue_under]
  split
  · exact hr.takeWord_under text
  · next hliteral =>
      have hnamed := htext (Bool.eq_false_iff.mpr hliteral)
      unfold Level.optionsOf at hnamed
      split
      · rfl
      · next name attached hkind =>
          simp only [hkind, Option.mem_toList] at hnamed
          exact hr.takeLong_under hnamed attached
      · next letters hkind =>
          simp only [hkind] at hnamed
          exact hr.takeLetters_under hnamed
      · split
        · rfl
        · exact hr.takeWord_under text

theorem isFree_of_takeArgument (hr : r.IsFree) {text : String}
    (htext : r.literal = false → ∀ opt ∈ level.optionsOf text, opt.isCommon = false)
    (h : takeArgument level r text = .ok r') : r'.IsFree := by
  cases hliteral : r.literal with
  | true => exact (follows_takeArgument_of_literal hliteral h).isFree hr (by simp)
  | false =>
      by_cases hdashes : text = "--"
      · rw [hdashes, takeArgument_dashes hliteral] at h
        obtain rfl := Except.ok.inj h
        exact hr
      · exact (follows_takeArgument hliteral hdashes h).isFree hr (htext hliteral)

theorem open_of_takeArgument {text : String} (h : takeArgument level r text = .ok r')
    (hopen : r'.literal = false) : r.literal = false ∧ text ≠ "--" := by
  cases hliteral : r.literal with
  | true =>
      have heq := (follows_takeArgument_of_literal hliteral h).literal
      simp [hopen, hliteral] at heq
  | false =>
      refine ⟨rfl, ?_⟩
      rintro rfl
      rw [takeArgument_dashes hliteral] at h
      obtain rfl := Except.ok.inj h
      cases hopen

end Reading

/-! ## All arguments -/

section Auth

variable {vars : OptionVariables} {r : Reading} {outer : Given}

/-- What common options around a command add to it: they are checked when it has ended, and complete
what it was given. -/
def completedBy (outer : Given) (x : Given × Action) : Except UsageError (Given × Action) := do
  checkConflict outer
  return (x.1.within outer, x.2)

theorem addVariables_within (level : Level) (given : Given) :
    addVariables vars level (given.within outer) =
      (·.within outer) <$> addVariables vars level given := by
  simp only [addVariables, show (given.within outer).templates = given.templates from rfl]
  split
  · exact Given.addValue_within rfl _
  · rfl

theorem checkConflict_within {given : Given} (hquiet : ¬ given.Has .quiet)
    (hverbose : ¬ given.Has .verbose) :
    checkConflict (given.within outer) = checkConflict outer := by
  simp only [Given.Has, Bool.not_eq_true, Nat.pos_iff_ne_zero, ne_eq, not_not] at hquiet hverbose
  simp [checkConflict, Given.within, hquiet, hverbose]

theorem endLevel_auth (vars : OptionVariables) (r : Reading) :
    endLevel vars .auth r = (r.outcome .auth >>= addVariables vars .auth) >>= fun given =>
      checkConflict given >>= fun _ => (given, ·) <$> lastAction .auth given := by
  rw [endLevel, Reading.outcome, bind_assoc, bind_assoc]
  rfl

theorem endLevel_under (hr : r.IsFree) :
    endLevel vars .auth (r.under outer) = endLevel vars .auth r >>= completedBy outer := by
  have hgiven : (r.under outer).outcome .auth >>= addVariables vars .auth =
      (·.within outer) <$> (r.outcome .auth >>= addVariables vars .auth) := by
    rw [hr.outcome_under, bind_map_left, map_bind]
    exact bind_congr (addVariables_within .auth)
  rw [endLevel_auth, endLevel_auth, hgiven]
  cases hend : r.outcome .auth >>= addVariables vars .auth with
  | error e => rfl
  | ok given =>
      obtain ⟨before, hbefore, hadded⟩ := bind_eq_ok_iff.mp hend
      obtain ⟨s, hs, hsettled⟩ := bind_eq_ok_iff.mp hbefore
      obtain rfl := Except.ok.inj hsettled
      obtain ⟨-, -, hmet⟩ := Reading.settle_eq_ok hs
      have hquiet : ¬ given.Has .quiet := by
        rw [has_addVariables hadded (.inl rfl), hmet]
        exact hr .quiet rfl
      have hverbose : ¬ given.Has .verbose := by
        rw [has_addVariables hadded (.inr rfl), hmet]
        exact hr .verbose rfl
      have hconflict : checkConflict given = .ok () :=
        checkConflict_eq_ok_iff.mpr fun h => hquiet h.1
      change checkConflict (given.within outer) >>= _ = (checkConflict given >>= _) >>= _
      rw [checkConflict_within hquiet hverbose, hconflict]
      rfl

theorem Level.forall_mem_named_cons {level : Level} {text : String} {args : List String}
    (htext : text ≠ "--") {P : Opt → Prop} :
    (∀ opt ∈ level.named (text :: args), P opt) ↔
      (∀ opt ∈ level.optionsOf text, P opt) ∧ ∀ opt ∈ level.named args, P opt := by
  rw [named, List.takeWhile_cons_of_pos (by simpa using htext), List.flatMap_cons,
    List.forall_mem_append]
  rfl

/-- Options that were given before arguments which name none of them are as good as options that
are given around these arguments. -/
theorem readLevel_under {args : List String} (hr : r.IsFree)
    (hargs : r.literal = false → ∀ opt ∈ Level.auth.named args, opt.isCommon = false) :
    readLevel vars .auth (r.under outer) args =
      readLevel vars .auth r args >>= completedBy outer := by
  induction args generalizing r with
  | nil => exact endLevel_under hr
  | cons text rest ih =>
      have hcommand : ∀ s : Reading, commandAt? .auth s text = none := fun s => by
        simp [commandAt?, Level.subcommand?]
      have htext : r.literal = false → ∀ opt ∈ Level.auth.optionsOf text, opt.isCommon = false := by
        intro hliteral
        by_cases hdashes : text = "--"
        · subst hdashes
          simp [Level.optionsOf, Argument.ofText_eq_dashes_iff.mpr]
        · exact ((Level.forall_mem_named_cons hdashes).mp (hargs hliteral)).1
      rw [readLevel, readLevel, hcommand, hcommand]
      simp only [hr.takeArgument_under htext, bind_map_left, bind_assoc]
      cases hnext : takeArgument .auth r text with
      | error e => rfl
      | ok next =>
          refine ih (Reading.isFree_of_takeArgument hr htext hnext) fun hliteral => ?_
          obtain ⟨hopen, hdashes⟩ := Reading.open_of_takeArgument hnext hliteral
          exact ((Level.forall_mem_named_cons hdashes).mp (hargs hopen)).2

end Auth

end Scaffold.Command
