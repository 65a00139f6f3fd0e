import Scaffold.Proofs.Command.Surroundings
/-!
# Common options before and after a command

The options before a command are read and checked on their own and complete what the command was
given; those after it stand among its own. For a list of common options that is accepted this makes
no difference.
-/

namespace Scaffold.Command

open Run (bind_eq_ok_iff)

/-! ## Lists of common options -/

def Entry.IsAccepted : Entry → Prop
  | .value .config text => text ≠ ""
  | .value .format text => (OutputFormat.ofName? text).isSome = true
  | .switch _ | .value _ _ => True

/-- Entries that can be given together. -/
structure WellFormed (entries : List Entry) : Prop where
  /-- Of the options only that for more detail is repeated. -/
  once : entries.Pairwise fun a b => a.opt = b.opt → a.opt = .verbose
  apart : ¬ (.quiet ∈ entries.map Entry.opt ∧ .verbose ∈ entries.map Entry.opt)

/-- The one value that is refused is the last argument. -/
def EndsRefused (entries : List Entry) (args : List String) : Prop :=
  ∃ front opt value, entries = front ++ [.value opt value] ∧ args.getLast? = some value ∧
    Argument.ofText value = .word ∧ (∀ entry ∈ front, entry.IsAccepted) ∧
    ¬ (Entry.value opt value).IsAccepted

namespace Given

variable {given given' : Given} {entry : Entry} {entries : List Entry}

theorem has_add (h : given.add entry = .ok given') (o : Opt) :
    given'.Has o ↔ given.Has o ∨ o = entry.opt := by
  cases entry with
  | switch opt => exact has_addSwitch h o
  | value opt text => exact has_addValue h o

/-- An entry is refused for its value, or for its option if that was given before. -/
theorem exists_add_eq_ok_iff (hcommon : entry.IsCommon) :
    (∃ given', given.add entry = .ok given') ↔
      entry.IsAccepted ∧ (entry.opt ≠ .verbose → ¬ given.Has entry.opt) := by
  have hmap {α : Type} {x : Except UsageError α} {f : α → Given} :
      (∃ given', (x >>= fun a => pure (f a)) = .ok given') ↔ ∃ a, x = .ok a := by
    cases x <;> simp [Functor.map, Except.map]
  obtain opt | ⟨opt, text⟩ := entry
  · cases opt with
    | verbose => simp [add, addSwitch, Entry.IsAccepted, Entry.opt]
    | quiet | noColor =>
        simp only [add, addSwitch, hmap, setSwitch_eq_ok_iff]
        simp [Entry.IsAccepted, Entry.opt, Has]
    | config | format => cases hcommon.2
    | help | version | root | migrations | templates | dryRun => cases hcommon.1
  · cases opt with
    | config =>
        simp only [add, addValue, hmap, setValue_eq_ok_iff]
        simp [Entry.IsAccepted, Entry.opt, Has, and_comm]
    | format =>
        simp only [add, addValue, Entry.IsAccepted, Entry.opt, Has]
        cases given.format <;> cases OutputFormat.ofName? text <;> simp
    | verbose | quiet | noColor => cases hcommon.2
    | help | version | root | migrations | templates | dryRun => cases hcommon.1

def IsCommon (given : Given) : Prop :=
  ({} : Given).within given = given

theorem IsCommon.add (hgiven : given.IsCommon) (hcommon : entry.IsCommon)
    (h : given.add entry = .ok given') : given'.IsCommon := by
  obtain opt | ⟨opt, text⟩ := entry
  · cases opt with
    | verbose =>
        obtain rfl := Except.ok.inj h
        exact congrArg (fun g => { g with verbose := min (given.verbose + 1) 255 }) hgiven
    | quiet =>
        obtain ⟨switch, -, hset⟩ := bind_eq_ok_iff.mp h
        obtain rfl := Except.ok.inj hset
        exact congrArg (fun g => { g with quiet := switch }) hgiven
    | noColor =>
        obtain ⟨switch, -, hset⟩ := bind_eq_ok_iff.mp h
        obtain rfl := Except.ok.inj hset
        exact congrArg (fun g => { g with noColor := switch }) hgiven
    | config | format => cases hcommon.2
    | help | version | root | migrations | templates | dryRun => cases hcommon.1
  · cases opt with
    | config =>
        obtain ⟨value, -, hset⟩ := bind_eq_ok_iff.mp h
        obtain rfl := Except.ok.inj hset
        exact congrArg (fun g => { g with config := value }) hgiven
    | format =>
        rw [Given.add, addValue] at h
        split at h
        · cases h
        · split at h
          · next format _ =>
              obtain rfl := Except.ok.inj h
              exact congrArg (fun g => { g with format := some format }) hgiven
          · cases h
    | verbose | quiet | noColor => cases hcommon.2
    | help | version | root | migrations | templates | dryRun => cases hcommon.1

theorem foldlM_add_eq_ok (hcommon : ∀ entry ∈ entries, entry.IsCommon)
    (h : entries.foldlM add given = .ok given') (hgiven : given.IsCommon) :
    given'.IsCommon ∧ ∀ o, given'.Has o ↔ given.Has o ∨ o ∈ entries.map Entry.opt := by
  induction entries generalizing given with
  | nil =>
      obtain rfl := Except.ok.inj h
      exact ⟨hgiven, by simp⟩
  | cons entry entries ih =>
      rw [List.foldlM_cons] at h
      obtain ⟨next, hnext, h⟩ := bind_eq_ok_iff.mp h
      obtain ⟨hentry, hcommon⟩ := List.forall_mem_cons.mp hcommon
      obtain ⟨hgiven', hhas⟩ := ih hcommon h (hgiven.add hentry hnext)
      refine ⟨hgiven', fun o => ?_⟩
      rw [hhas, has_add hnext, List.map_cons, List.mem_cons, or_assoc]

theorem exists_foldlM_add_eq_ok_iff (hcommon : ∀ entry ∈ entries, entry.IsCommon) :
    (∃ given', entries.foldlM add given = .ok given') ↔
      (∀ entry ∈ entries, entry.IsAccepted) ∧
      (entries.Pairwise fun a b => a.opt = b.opt → a.opt = .verbose) ∧
      ∀ entry ∈ entries, entry.opt ≠ .verbose → ¬ given.Has entry.opt := by
  induction entries generalizing given with
  | nil => exact iff_of_true ⟨given, rfl⟩ (by simp)
  | cons entry entries ih =>
      obtain ⟨hentry, hcommon⟩ := List.forall_mem_cons.mp hcommon
      simp only [List.foldlM_cons, bind_eq_ok_iff, List.forall_mem_cons, List.pairwise_cons]
      constructor
      · rintro ⟨given', next, hnext, h⟩
        obtain ⟨haccepted, hfresh⟩ := (exists_add_eq_ok_iff hentry).mp ⟨next, hnext⟩
        obtain ⟨haccepted', honce, hfresh'⟩ := (ih hcommon).mp ⟨given', h⟩
        refine ⟨⟨haccepted, haccepted'⟩, ⟨fun other hother hopt => ?_, honce⟩, hfresh,
          fun other hother hdetail hhas => ?_⟩
        · by_contra hdetail
          rw [hopt] at hdetail
          exact hfresh' other hother hdetail ((has_add hnext _).mpr (.inr hopt.symm))
        · exact hfresh' other hother hdetail ((has_add hnext _).mpr (.inl hhas))
      · rintro ⟨⟨haccepted, haccepted'⟩, ⟨honce, honce'⟩, hfresh, hfresh'⟩
        obtain ⟨next, hnext⟩ := (exists_add_eq_ok_iff hentry).mpr ⟨haccepted, hfresh⟩
        have hnextFresh : ∀ other ∈ entries, other.opt ≠ .verbose → ¬ next.Has other.opt := by
          intro other hother hdetail hhas
          rcases (has_add hnext _).mp hhas with hhas | hopt
          · exact hfresh' other hother hdetail hhas
          · exact hdetail (hopt.trans (honce other hother hopt.symm))
        obtain ⟨given', h⟩ := (ih hcommon).mpr ⟨haccepted', honce', hnextFresh⟩
        exact ⟨given', next, hnext, h⟩

theorem not_has_nothing (o : Opt) : ¬ ({} : Given).Has o :=
  Reading.not_meets_start o ∘ .inl

theorem checkConflict_foldlM_add (hcommon : ∀ entry ∈ entries, entry.IsCommon)
    (h : entries.foldlM add {} = .ok given) :
    checkConflict given = .ok () ↔
      WellFormed entries ∧ ∀ entry ∈ entries, entry.IsAccepted := by
  obtain ⟨-, hhas⟩ := foldlM_add_eq_ok hcommon h rfl
  obtain ⟨haccepted, honce, -⟩ := (exists_foldlM_add_eq_ok_iff hcommon).mp ⟨given, h⟩
  rw [checkConflict_eq_ok_iff, hhas, hhas, or_iff_right (not_has_nothing _),
    or_iff_right (not_has_nothing _)]
  exact ⟨fun hapart => ⟨⟨honce, hapart⟩, haccepted⟩, fun hallowed => hallowed.1.apart⟩

theorem not_wellFormed_of_foldlM_add {e : UsageError} (hcommon : ∀ entry ∈ entries, entry.IsCommon)
    (h : entries.foldlM add {} = .error e) :
    ¬ (WellFormed entries ∧ ∀ entry ∈ entries, entry.IsAccepted) := by
  rintro ⟨hwell, haccepted⟩
  obtain ⟨given, hgiven⟩ := (exists_foldlM_add_eq_ok_iff hcommon).mpr
    ⟨haccepted, hwell.once, fun entry _ _ => not_has_nothing entry.opt⟩
  cases h.symm.trans hgiven

theorem within_nothing (given : Given) : given.within {} = given := by
  have hverbose : (if given.verbose = 0 then 0 else given.verbose) = given.verbose := by
    split <;> simp_all
  simp [within, hverbose]

end Given

/-! ## Before and after a command -/

section Placement

variable {vars : OptionVariables} {entries : List Entry} {args rest : List String}

theorem readLevel_program_auth {r : Reading} (hcomplete : r.IsComplete)
    (hliteral : r.literal = false) (rest : List String) :
    readLevel vars .program r ("auth" :: rest) =
      readLevel vars .auth {} rest >>= endOuter .program r := by
  have hcommand : commandAt? .program r "auth" = some (.enter .auth) := by
    simp [commandAt?, hliteral, hcomplete.awaitsValue, Level.subcommand?]
  rw [readLevel, hcommand]

theorem readLevel_program_nothing_auth (rest : List String) :
    readLevel vars .program {} ("auth" :: rest) = readLevel vars .auth {} rest := by
  rw [readLevel_program_auth (.inl rfl) rfl]
  cases readLevel vars .auth {} rest with
  | error e => rfl
  | ok x =>
      change Except.ok (x.1.within {}, x.2) = .ok x
      rw [Given.within_nothing]

theorem exists_parse_eq_ok_iff :
    (∃ invocation, parse vars args = .ok invocation) ↔
      ∃ x, readLevel vars .program {} args = .ok x := by
  rw [parse]
  cases readLevel vars .program {} args with
  | error e => exact iff_of_false (fun ⟨_, h⟩ => nomatch h) fun ⟨_, h⟩ => nomatch h
  | ok x => exact iff_of_true ⟨_, rfl⟩ ⟨x, rfl⟩

theorem exists_completedBy_eq_ok_iff {given : Given} {y : Except UsageError (Given × Action)} :
    (∃ x, y >>= completedBy given = .ok x) ↔ checkConflict given = .ok () ∧ ∃ x, y = .ok x := by
  constructor
  · rintro ⟨_, h⟩
    obtain ⟨x, hx, h⟩ := bind_eq_ok_iff.mp h
    obtain ⟨_, hconflict, -⟩ := bind_eq_ok_iff.mp h
    exact ⟨hconflict, x, hx⟩
  · rintro ⟨hconflict, x, rfl⟩
    exact ⟨_, bind_eq_ok_iff.mpr ⟨x, rfl, bind_eq_ok_iff.mpr ⟨(), hconflict, rfl⟩⟩⟩

/-- Options that are read complete the command from both places. -/
theorem readLevel_of_foldlM_eq_ok (vars : OptionVariables) {given : Given}
    (hargs : Spells entries args)
    (hrest : ∀ opt ∈ Level.auth.named rest, opt.isCommon = false)
    (h : entries.foldlM Given.add {} = .ok given) :
    let completed := readLevel vars .auth {} rest >>= completedBy given
    readLevel vars .program {} (args ++ "auth" :: rest) = completed ∧
      readLevel vars .program {} ("auth" :: (args ++ rest)) = completed := by
  intro completed
  have hreads : ∀ level, ReadsTo vars level {} args (.ok given) := fun level => by
    rw [← h]
    exact readsTo_spells hargs ⟨.inl rfl, rfl, rfl⟩
  have hcommon : given.IsCommon := (Given.foldlM_add_eq_ok hargs.isCommon h rfl).1
  have hunder : ({ given := given } : Reading) = Reading.under {} given :=
    congrArg (fun g : Given => ({ given := g } : Reading)) hcommon.symm
  constructor
  · rw [(hreads .program).eq_of_ok, readLevel_program_auth (.inl rfl) rfl]
    rfl
  · rw [readLevel_program_nothing_auth, (hreads .auth).eq_of_ok, hunder]
    exact readLevel_under (fun opt _ => Reading.not_meets_start opt) fun _ => hrest

/-- Options that are refused are refused in both places, for the same reason if it is the only
one. -/
theorem readLevel_of_foldlM_eq_error (vars : OptionVariables) (rest : List String) {e : UsageError}
    (hargs : Spells entries args)
    (h : entries.foldlM Given.add {} = .error e) :
    let before := readLevel vars .program {} (args ++ "auth" :: rest)
    let after := readLevel vars .program {} ("auth" :: (args ++ rest))
    (∀ x, before ≠ .ok x ∧ after ≠ .ok x) ∧
      ∀ x, readLevel vars .auth {} rest = .ok x → before = .error e ∧ after = .error e := by
  intro before after
  have hreads : ∀ level, ReadsTo vars level {} args (.error e) := fun level => by
    rw [← h]
    exact readsTo_spells hargs ⟨.inl rfl, rfl, rfl⟩
  have hafter : after = readLevel vars .auth {} (args ++ rest) :=
    readLevel_program_nothing_auth (args ++ rest)
  refine ⟨fun x => ⟨(hreads .program).ne_ok_of_error _ x, ?_⟩, fun x hok => ⟨?_, ?_⟩⟩
  · rw [hafter]
    exact (hreads .auth).ne_ok_of_error rest x
  · exact (hreads .program).eq_error_of_ok ((readLevel_program_nothing_auth rest).trans hok)
  · rw [hafter]
    exact (hreads .auth).eq_error_of_ok hok

theorem readLevel_of_not_endsRefused (vars : OptionVariables) {e : UsageError}
    (hargs : Spells entries args) (hwell : WellFormed entries)
    (hends : ¬ EndsRefused entries args)
    (h : entries.foldlM Given.add {} = .error e) (level : Level) (rest : List String) :
    readLevel vars level {} (args ++ rest) = .error e := by
  rcases readLevel_spells_error vars level (r := {}) hargs (.inl rfl) rfl h with
    hfound | rfl | ⟨front, opt, value, rfl, hlast, hvalue, given, hfront⟩
  · exact hfound rest
  · cases hargs
    cases h
  · obtain ⟨hcommon, -⟩ := List.forall_mem_append.mp hargs.isCommon
    obtain ⟨haccepted, -, -⟩ := (Given.exists_foldlM_add_eq_ok_iff hcommon).mp ⟨given, hfront⟩
    refine absurd ⟨front, opt, value, rfl, hlast, hvalue, haccepted, fun hvalue => ?_⟩ hends
    have hall := List.forall_mem_append.mpr ⟨haccepted, List.forall_mem_singleton.mpr hvalue⟩
    exact Given.not_wellFormed_of_foldlM_add hargs.isCommon h ⟨hwell, hall⟩

/-- Common options do the same before and after a command, if they can be given together and do not
end in the one value that is refused, and also if the command is accepted without them. In both
places they are accepted exactly if they can be given together, their values are not refused and the
command is accepted without them. -/
theorem common_options_before_or_after (vars : OptionVariables) (hargs : Spells entries args)
    (hrest : ∀ opt ∈ Level.auth.named rest, opt.isCommon = false) :
    let before := parse vars (args ++ "auth" :: rest)
    let after := parse vars ("auth" :: (args ++ rest))
    let allowed := WellFormed entries ∧ ∀ entry ∈ entries, entry.IsAccepted
    let alone := ∃ invocation, parse vars ("auth" :: rest) = .ok invocation
    ((WellFormed entries ∧ ¬ EndsRefused entries args) ∨ alone → before = after) ∧
    ((∃ invocation, before = .ok invocation) ↔ allowed ∧ alone) ∧
    ((∃ invocation, after = .ok invocation) ↔ allowed ∧ alone) := by
  intro before after allowed alone
  have halone : alone ↔ ∃ x, readLevel vars .auth {} rest = .ok x := by
    rw [← readLevel_program_nothing_auth]
    exact exists_parse_eq_ok_iff
  have hparse {a b : List String} (hread : readLevel vars .program {} a =
      readLevel vars .program {} b) : parse vars a = parse vars b := by
    rw [parse, parse, hread]
  rw [exists_parse_eq_ok_iff, exists_parse_eq_ok_iff, halone]
  cases h : entries.foldlM Given.add {} with
  | ok given =>
      obtain ⟨hbefore, hafter⟩ := readLevel_of_foldlM_eq_ok vars hargs hrest h
      have hallowed := Given.checkConflict_foldlM_add hargs.isCommon h
      rw [hbefore, hafter, exists_completedBy_eq_ok_iff, hallowed]
      exact ⟨fun _ => hparse (hbefore.trans hafter.symm), Iff.rfl, Iff.rfl⟩
  | error e =>
      obtain ⟨hnever, herror⟩ := readLevel_of_foldlM_eq_error vars rest hargs h
      have hallowed : ¬ allowed := Given.not_wellFormed_of_foldlM_add hargs.isCommon h
      refine ⟨?_, ?_, ?_⟩
      · rintro (⟨hwell, hends⟩ | ⟨x, hx⟩)
        · have hfound := readLevel_of_not_endsRefused vars hargs hwell hends h
          apply hparse
          rw [hfound, readLevel_program_nothing_auth, hfound]
        · obtain ⟨hbefore, hafter⟩ := herror x hx
          exact hparse (hbefore.trans hafter.symm)
      · exact iff_of_false (fun ⟨x, hx⟩ => (hnever x).1 hx) fun h => hallowed h.1
      · exact iff_of_false (fun ⟨x, hx⟩ => (hnever x).2 hx) fun h => hallowed h.1

/-- The word after a letter that waits is its value and no command; behind two dashes the command
has words that look like common options. -/
theorem common_options_before_or_after_auth :
    let entries : List Entry :=
      [.switch .verbose, .value .config "auth", .switch .verbose, .value .format "json"]
    let args := ["-vc", "auth", "--verbose", "--output-format=json"]
    let rest := ["-r=x", "--dry-run", "a", "--", "-q"]
    let invocation : Invocation :=
      ⟨⟨2, false, false, some "auth", .json⟩, .auth ⟨["a", "-q"], some "x", none, none, true⟩⟩
    Spells entries args ∧ (∀ opt ∈ Level.auth.named rest, opt.isCommon = false) ∧
      parse {} (args ++ "auth" :: rest) = .ok invocation ∧
      parse {} ("auth" :: (args ++ rest)) = .ok invocation := by
  intro entries args rest invocation
  have hletters : SpellsLetters [.switch .verbose] (some .config) ['v', 'c'] :=
    .switch ⟨rfl, rfl⟩ rfl (.apart rfl rfl rfl)
  have hargs : Spells entries args :=
    .apart (.letters (by decide) hletters) (by decide)
      (.cons (.long ⟨rfl, rfl⟩) (.cons (.longAttached ⟨rfl, rfl⟩) .nil))
  have hrest : ∀ opt ∈ Level.auth.named rest, opt.isCommon = false := by decide
  have hwell : WellFormed entries := ⟨by decide, by decide⟩
  have hends : ¬ EndsRefused entries args := by
    rintro ⟨front, opt, value, -, hlast, hword, -⟩
    obtain rfl := Option.some.inj hlast
    exact absurd hword (by decide)
  have hafter : parse {} ("auth" :: (args ++ rest)) = .ok invocation := by decide +kernel
  obtain ⟨hsame, -⟩ := common_options_before_or_after {} hargs hrest
  exact ⟨hargs, hrest, (hsame (.inl ⟨hwell, hends⟩)).trans hafter, hafter⟩

/-- A value that is refused is found when its level goes on or ends. Before a command that is when
the command has been read, and what is wrong with the command is found first. -/
theorem refused_value_before_or_after :
    let entries : List Entry := [.value .format "bogus"]
    let args := ["--output-format", "bogus"]
    let twice := ["--root", "a", "--root", "b"]
    let help := ["--help"]
    Spells entries args ∧ WellFormed entries ∧
      (∀ opt ∈ Level.auth.named twice ++ Level.auth.named help, opt.isCommon = false) ∧
      parse {} (args ++ "auth" :: twice) = .error .conflict ∧
      parse {} ("auth" :: (args ++ twice)) = .error .invalidValue ∧
      parse {} (args ++ "auth" :: help) = .error .help ∧
      parse {} ("auth" :: (args ++ help)) = .error .invalidValue :=
  ⟨.apart (.longApart rfl rfl) (by decide) .nil, ⟨by decide, by decide⟩, by decide,
    by decide +kernel, by decide +kernel, by decide +kernel, by decide +kernel⟩

end Placement

end Scaffold.Command
