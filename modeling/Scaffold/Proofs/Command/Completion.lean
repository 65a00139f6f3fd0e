import Scaffold.Proofs.Command.Reading
/-!
# Options that are complete

Options that are complete but not settled. Nothing that is read tells an option whose value was read
from one that was settled at once: either the value is accepted, and the rest is read as if it had
been settled, or it is refused, and the command line is refused whatever comes after.
-/

namespace Scaffold.Command

open Run (bind_eq_ok_iff)

namespace Reading

variable {vars : OptionVariables} {level : Level} {r s : Reading}

/-- Nothing is begun but an option whose value was read. -/
def IsComplete (r : Reading) : Prop :=
  r.pending = .nothing ∨ ∃ opt value, r.pending = .option opt (some value)

theorem IsComplete.awaitsValue (h : r.IsComplete) : r.awaitsValue = false := by
  rcases h with h | ⟨opt, value, h⟩ <;> simp [Reading.awaitsValue, h]

theorem settle_of_nothing (h : r.pending = .nothing) : r.settle level = .ok r := by
  simp [settle, h]

theorem values_addValue {given given' : Given} {opt : Opt} {value : String}
    (h : given.addValue value opt = .ok given') : given'.values = given.values := by
  cases opt with
  | config | root | migrations | templates =>
      obtain ⟨new, -, hset⟩ := bind_eq_ok_iff.mp h
      obtain rfl := Except.ok.inj hset
      rfl
  | format =>
      rw [Given.addValue] at h
      split at h
      · cases h
      · split at h
        · obtain rfl := Except.ok.inj h
          rfl
        · cases h
  | verbose | quiet | noColor | dryRun | help | version => cases h

theorem values_addSwitch {given given' : Given} {opt : Opt} (h : given.addSwitch opt = .ok given') :
    given'.values = given.values := by
  cases opt with
  | verbose =>
      obtain rfl := Except.ok.inj h
      rfl
  | quiet | noColor | dryRun =>
      obtain ⟨switch, -, hset⟩ := bind_eq_ok_iff.mp h
      obtain rfl := Except.ok.inj hset
      rfl
  | config | format | help | version | root | migrations | templates => cases h

theorem IsComplete.wordCount (h : r.IsComplete) : r.wordCount = r.given.values.length := by
  rcases h with h | ⟨opt, value, h⟩ <;> simp [Reading.wordCount, h]

theorem settle_literal (r : Reading) (level : Level) (literal : Bool) :
    settle { r with literal } level = (r.settle level).map fun s => { s with literal } := by
  obtain ⟨given, pending, _⟩ := r
  cases pending with
  | nothing => rfl
  | option opt value =>
      cases value with
      | none => rfl
      | some value =>
          simp only [settle]
          cases given.addValue value opt <;> rfl
  | words words =>
      simp only [settle]
      cases given.addWords level words <;> rfl

theorem IsComplete.wordCount_settle (h : r.IsComplete) (hs : r.settle level = .ok s) :
    s.wordCount = r.wordCount := by
  rcases h with h | ⟨opt, value, h⟩
  · rw [settle_of_nothing h] at hs
    rw [Except.ok.inj hs]
  · simp only [settle, h] at hs
    obtain ⟨given, hgiven, hs⟩ := bind_eq_ok_iff.mp hs
    obtain rfl := Except.ok.inj hs
    simp [Reading.wordCount, h, values_addValue hgiven]

/-! ## One argument -/

section Settled

variable (h : r.IsComplete) (hs : r.settle level = .ok s)

include hs in
theorem settle_settle : s.settle level = .ok s :=
  settle_of_nothing (settle_eq_ok hs).1

include hs in
theorem takeOption_settle (opt : Opt) : r.takeOption level opt = s.takeOption level opt := by
  rw [takeOption, takeOption, hs, settle_settle hs]

include hs in
theorem takeAttached_settle (opt : Opt) (value : String) :
    r.takeAttached level opt value = s.takeAttached level opt value := by
  rw [takeAttached, takeAttached, hs, settle_settle hs]

include hs in
theorem takeLetters_settle {letters : List Char} (hne : letters ≠ []) :
    r.takeLetters level letters = s.takeLetters level letters := by
  obtain ⟨letter, letters, rfl⟩ := List.exists_cons_of_ne_nil hne
  rw [takeLetters, takeLetters]
  simp only [takeOption_settle hs, takeAttached_settle hs]

include h hs in
theorem takeWord_settle (word : String) : r.takeWord level word = s.takeWord level word := by
  have hpending := (settle_eq_ok hs).1
  have hliteral := (settle_eq_ok hs).2.1
  have hfault : s.strayFault level word = r.strayFault level word := by
    simp only [strayFault, hliteral]
  have hwords : ∀ words, r.pending ≠ .words words := by
    rcases h with h | ⟨opt, value, h⟩ <;> simp [h]
  unfold takeWord
  rw [h.wordCount_settle hs, settle_settle hs, hs, hfault, hpending]
  split
  · split
    · next words hpending' => exact absurd hpending' (hwords words)
    · rfl
  · rfl

include h hs in
/-- An argument does the same before and after, unless all it does is to end the options. -/
theorem takeArgument_settle (text : String) :
    (∃ literal, takeArgument level r text = .ok { r with literal } ∧
      takeArgument level s text = .ok { s with literal }) ∨
    takeArgument level r text = takeArgument level s text := by
  have hliteral := (settle_eq_ok hs).2.1
  have hawaits : s.awaitsValue = false :=
    IsComplete.awaitsValue (.inl (settle_eq_ok hs).1)
  rw [takeArgument, takeArgument, hliteral]
  by_cases hdashes : r.literal = true
  · rw [if_pos hdashes, if_pos hdashes]
    exact .inr (takeWord_settle h hs text)
  · rw [if_neg hdashes, if_neg hdashes]
    split
    · exact .inl ⟨true, rfl, rfl⟩
    · refine .inr ?_
      simp only [takeLong, takeOption_settle hs, takeAttached_settle hs]
    · next letters hcluster =>
        exact .inr (takeLetters_settle hs (Argument.ne_nil_of_ofText_eq_cluster hcluster))
    · rw [h.awaitsValue, hawaits]
      exact .inr (takeWord_settle h hs text)

end Settled

/-- A reading in which nothing is begun but an option, and which takes words as another one does. -/
structure Beside (r s : Reading) : Prop where
  isComplete : s.IsComplete
  literal : s.literal = r.literal
  wordCount : s.wordCount = r.wordCount

section Refused

variable {e : UsageError} (h : r.IsComplete) (he : r.settle level = .error e)

include he in
theorem takeOption_refused (opt : Opt) : r.takeOption level opt = .error e := by
  rw [takeOption, he]
  rfl

include he in
theorem takeAttached_refused (opt : Opt) (value : String) :
    r.takeAttached level opt value = .error e ∨
      ∃ e', ∀ s : Reading, s.takeAttached level opt value = .error e' := by
  cases htakes : opt.takesValue with
  | true => exact .inl (by simp [takeAttached, htakes, he, bind, Except.bind])
  | false => exact .inr ⟨.tooManyValues, fun s => by simp [takeAttached, htakes, bind, Except.bind]⟩

include he in
theorem takeLong_refused (name : String) (attached : Option String) :
    r.takeLong level name attached = .error e ∨
      ∃ e', ∀ s : Reading, s.takeLong level name attached = .error e' := by
  unfold takeLong
  split
  · exact .inr ⟨_, fun _ => rfl⟩
  · exact .inl (takeOption_refused he _)
  · exact takeAttached_refused he _ _

include he in
theorem takeLetters_refused {letters : List Char} (hne : letters ≠ []) :
    r.takeLetters level letters = .error e ∨
      ∃ e', ∀ s : Reading, s.takeLetters level letters = .error e' := by
  obtain ⟨letter, letters, rfl⟩ := List.exists_cons_of_ne_nil hne
  simp only [takeLetters]
  split
  · exact .inr ⟨_, fun _ => rfl⟩
  · split
    · split
      · exact .inl (takeOption_refused he _)
      · exact takeAttached_refused he _ _
      · exact takeAttached_refused he _ _
    · rw [takeOption_refused he]
      exact .inl rfl

include h he in
theorem takeWord_refused (word : String) :
    r.takeWord level word = .error e ∨
      ∃ e', ∀ s, Beside r s → s.takeWord level word = .error e' := by
  by_cases haccepts : level.acceptsValue r.wordCount = true
  · refine .inl ?_
    unfold takeWord
    rw [if_pos haccepts, he]
    split
    · next words hpending =>
        rcases h with h | ⟨opt, value, h⟩ <;> cases h.symm.trans hpending
    · rfl
  · refine .inr ⟨r.strayFault level word, fun s hs => ?_⟩
    rw [takeWord, hs.wordCount, if_neg haccepts, strayFault, strayFault, hs.literal]

include h he in
/-- An argument ends the options, finds the value refused, or is refused on its own account. -/
theorem takeArgument_refused (text : String) :
    (∃ literal, ∀ s : Reading, s.literal = r.literal →
      takeArgument level s text = .ok { s with literal }) ∨
    takeArgument level r text = .error e ∨
    ∃ e', ∀ s, Beside r s → takeArgument level s text = .error e' := by
  have hword := takeWord_refused h he text
  cases hliteral : r.literal with
  | true =>
      rw [takeArgument, if_pos hliteral]
      refine .inr (hword.imp_right ?_)
      rintro ⟨e', hany⟩
      exact ⟨e', fun s hs => by rw [takeArgument, if_pos (hs.literal.trans hliteral), hany s hs]⟩
  | false =>
      have hopen : ∀ s : Reading, s.literal = false → ¬ s.literal = true := by simp
      simp only [takeArgument, if_neg (hopen r hliteral)]
      cases hkind : Argument.ofText text with
      | dashes => exact .inl ⟨true, fun s hs => if_neg (hopen s hs)⟩
      | long name attached =>
          rcases takeLong_refused he name attached with hr | ⟨e', hany⟩
          · exact .inr (.inl hr)
          · exact .inr (.inr ⟨e', fun s hs =>
              (if_neg (hopen s (hs.literal.trans hliteral))).trans (hany s)⟩)
      | cluster letters =>
          have hne := Argument.ne_nil_of_ofText_eq_cluster hkind
          rcases takeLetters_refused he hne with hr | ⟨e', hany⟩
          · exact .inr (.inl hr)
          · exact .inr (.inr ⟨e', fun s hs =>
              (if_neg (hopen s (hs.literal.trans hliteral))).trans (hany s)⟩)
      | word =>
          simp only [h.awaitsValue, Bool.false_eq_true, if_false]
          refine .inr (hword.imp_right ?_)
          rintro ⟨e', hany⟩
          refine ⟨e', fun s hs => (if_neg (hopen s (hs.literal.trans hliteral))).trans ?_⟩
          rw [hs.isComplete.awaitsValue, if_neg Bool.false_ne_true, hany s hs]

end Refused

/-! ## All arguments -/

/-- An option whose value is accepted might as well have been settled. -/
theorem readLevel_settle (h : r.IsComplete) (hs : r.settle level = .ok s) (args : List String) :
    readLevel vars level r args = readLevel vars level s args := by
  induction args generalizing r s with
  | nil => rw [readLevel, readLevel, endLevel, endLevel, hs, settle_settle hs]
  | cons text rest ih =>
      have hawaits : s.awaitsValue = r.awaitsValue := by
        rw [h.awaitsValue, IsComplete.awaitsValue (.inl (settle_eq_ok hs).1)]
      have hcommand : commandAt? level s text = commandAt? level r text := by
        rw [commandAt?, commandAt?, (settle_eq_ok hs).2.1, hawaits]
      rw [readLevel, readLevel, hcommand]
      split
      · rfl
      · simp only [endOuter, hs, settle_settle hs]
      · rcases takeArgument_settle h hs text with ⟨literal, hr, hs'⟩ | heq
        · rw [hr, hs']
          exact ih h (by rw [settle_literal, hs]; rfl)
        · rw [heq]

/-- What would be accepted without a refused value fails for that value. -/
theorem readLevel_refused_of_ok {e : UsageError} {x : Given × Action} {args : List String}
    (h : r.IsComplete) (he : r.settle level = .error e) (hs : Beside r s)
    (hok : readLevel vars level s args = .ok x) :
    readLevel vars level r args = .error e := by
  -- on the arguments, for any two readings: one that is accepted leaves them beside each other
  induction args generalizing r s with
  | nil =>
      rw [readLevel, endLevel, he]
      rfl
  | cons text rest ih =>
      have hcommand : commandAt? level r text = commandAt? level s text := by
        rw [commandAt?, commandAt?, hs.literal, h.awaitsValue, hs.isComplete.awaitsValue]
      rw [readLevel] at hok ⊢
      rw [hcommand]
      split at hok
      · cases hok
      · obtain ⟨inner, hinner, -⟩ := bind_eq_ok_iff.mp hok
        rw [hinner]
        simp only [endOuter, he]
        rfl
      · obtain ⟨next, hnext, hok⟩ := bind_eq_ok_iff.mp hok
        rcases takeArgument_refused h he text with ⟨literal, hboth⟩ | hr | ⟨e', hboth⟩
        · rw [hboth s hs.literal] at hnext
          obtain rfl := Except.ok.inj hnext
          rw [hboth r rfl]
          have hrefused : settle { r with literal } level = .error e := by
            rw [settle_literal, he]
            rfl
          exact ih (r := { r with literal }) (s := { s with literal }) h hrefused
            ⟨hs.isComplete, rfl, hs.wordCount⟩ hok
        · rw [hr]
          rfl
        · cases (hboth s hs).symm.trans hnext

theorem readLevel_refused {e : UsageError} (h : r.IsComplete) (he : r.settle level = .error e)
    (args : List String) (x : Given × Action) : readLevel vars level r args ≠ .ok x := by
  intro hok
  cases (readLevel_refused_of_ok h he ⟨h, rfl, rfl⟩ hok).symm.trans hok

end Reading

end Scaffold.Command
