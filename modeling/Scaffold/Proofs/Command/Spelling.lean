import Scaffold.Proofs.Command.Completion
/-!
# Spellings of common options

An option is written in full or by its letter, its value behind an equals sign, behind the letter
itself or as the next argument, and letters stand together behind one dash. However options are
written, reading them adds them in order to what was given.
-/

namespace Scaffold.Command

open Run (bind_eq_ok_iff)

/-- The options every level accepts, requests aside. -/
def Opt.isCommon : Opt → Bool
  | verbose | quiet | noColor | config | format => true
  | help | version | root | migrations | templates | dryRun => false

/-- An option as it is meant: one that stands alone, or one with its value. -/
inductive Entry where
  | switch (opt : Opt)
  | value (opt : Opt) (text : String)
  deriving DecidableEq, Repr

namespace Entry

def opt : Entry → Opt
  | switch opt => opt
  | value opt _ => opt

def IsCommon : Entry → Prop
  | switch opt => opt.isCommon = true ∧ opt.takesValue = false
  | value opt _ => opt.isCommon = true ∧ opt.takesValue = true

end Entry

def Given.add (given : Given) : Entry → Except UsageError Given
  | .switch opt => given.addSwitch opt
  | .value opt text => given.addValue text opt

/-! ## The written forms -/

/-- Letters that spell entries. The last one may be of an option whose value is the next
argument. -/
inductive SpellsLetters : List Entry → Option Opt → List Char → Prop
  | nil : SpellsLetters [] none []
  | switch {opt : Opt} {letter : Char} {entries : List Entry} {last : Option Opt}
      {letters : List Char} (hentry : (Entry.switch opt).IsCommon)
      (hletter : opt.short? = some letter) (h : SpellsLetters entries last letters) :
      SpellsLetters (.switch opt :: entries) last (letter :: letters)
  /-- `-cFILE` -/
  | attached {opt : Opt} {letter : Char} {text : List Char}
      (hentry : (Entry.value opt (String.ofList text)).IsCommon)
      (hletter : opt.short? = some letter) (hne : text ≠ []) (hhead : text.head? ≠ some '=') :
      SpellsLetters [.value opt (String.ofList text)] none (letter :: text)
  /-- `-c=FILE` -/
  | equals {opt : Opt} {letter : Char} {text : List Char}
      (hentry : (Entry.value opt (String.ofList text)).IsCommon)
      (hletter : opt.short? = some letter) :
      SpellsLetters [.value opt (String.ofList text)] none (letter :: '=' :: text)
  /-- `-c`, before `FILE` -/
  | apart {opt : Opt} {letter : Char} (hcommon : opt.isCommon = true)
      (htakes : opt.takesValue = true) (hletter : opt.short? = some letter) :
      SpellsLetters [] (some opt) [letter]

/-- An argument that spells entries. The last option may be one whose value is the next
argument. -/
inductive SpellsArgument : List Entry → Option Opt → String → Prop
  /-- `--quiet` -/
  | long {opt : Opt} (hentry : (Entry.switch opt).IsCommon) :
      SpellsArgument [.switch opt] none ("--" ++ opt.long)
  /-- `--config=FILE` -/
  | longAttached {opt : Opt} {text : String} (hentry : (Entry.value opt text).IsCommon) :
      SpellsArgument [.value opt text] none ("--" ++ opt.long ++ "=" ++ text)
  /-- `--config`, before `FILE` -/
  | longApart {opt : Opt} (hcommon : opt.isCommon = true) (htakes : opt.takesValue = true) :
      SpellsArgument [] (some opt) ("--" ++ opt.long)
  /-- `-vq` -/
  | letters {entries : List Entry} {last : Option Opt} {letters : List Char} (hne : letters ≠ [])
      (h : SpellsLetters entries last letters) :
      SpellsArgument entries last (String.ofList ('-' :: letters))

/-- Arguments that spell entries. A value that is an argument of its own does not look like an
option. -/
inductive Spells : List Entry → List String → Prop
  | nil : Spells [] []
  | cons {together entries : List Entry} {text : String} {args : List String}
      (hfirst : SpellsArgument together none text) (h : Spells entries args) :
      Spells (together ++ entries) (text :: args)
  | apart {together entries : List Entry} {opt : Opt} {text value : String} {args : List String}
      (hfirst : SpellsArgument together (some opt) text) (hvalue : Argument.ofText value = .word)
      (h : Spells entries args) :
      Spells (together ++ .value opt value :: entries) (text :: value :: args)

/-! ## The entries of a spelling -/

theorem SpellsLetters.isCommon {entries : List Entry} {last : Option Opt} {letters : List Char}
    (h : SpellsLetters entries last letters) :
    (∀ entry ∈ entries, entry.IsCommon) ∧
      ∀ opt ∈ last, opt.isCommon = true ∧ opt.takesValue = true := by
  induction h with
  | nil => simp
  | switch hentry _ _ ih => exact ⟨List.forall_mem_cons.mpr ⟨hentry, ih.1⟩, ih.2⟩
  | attached hentry | equals hentry => simp [hentry]
  | apart hcommon htakes => simp [hcommon, htakes]

theorem SpellsLetters.head?_ne {entries : List Entry} {last : Option Opt} {letters : List Char}
    (h : SpellsLetters entries last letters) : letters.head? ≠ some '-' := by
  have hdash : ∀ opt : Opt, opt.short? ≠ some '-' := fun opt => by cases opt <;> decide
  cases h with
  | nil => simp
  | switch _ hletter | attached _ hletter | equals _ hletter | apart _ _ hletter =>
      rintro ⟨rfl⟩
      exact hdash _ hletter

theorem SpellsArgument.isCommon {entries : List Entry} {last : Option Opt} {text : String}
    (h : SpellsArgument entries last text) :
    (∀ entry ∈ entries, entry.IsCommon) ∧
      ∀ opt ∈ last, opt.isCommon = true ∧ opt.takesValue = true := by
  cases h with
  | long hentry | longAttached hentry => simp [hentry]
  | longApart hcommon htakes => simp [hcommon, htakes]
  | letters hne h => exact h.isCommon

theorem SpellsArgument.head?_eq {entries : List Entry} {last : Option Opt} {text : String}
    (h : SpellsArgument entries last text) : text.toList.head? = some '-' := by
  cases h <;> simp

theorem Spells.isCommon {entries : List Entry} {args : List String} (h : Spells entries args) :
    ∀ entry ∈ entries, entry.IsCommon := by
  induction h with
  | nil => simp
  | cons hfirst _ ih => exact List.forall_mem_append.mpr ⟨hfirst.isCommon.1, ih⟩
  | apart hfirst _ _ ih =>
      have hvalue := hfirst.isCommon.2 _ rfl
      exact List.forall_mem_append.mpr ⟨hfirst.isCommon.1, List.forall_mem_cons.mpr ⟨hvalue, ih⟩⟩

/-! ## Kinds of arguments -/

theorem cutAtEquals_append {name : List Char} (h : '=' ∉ name) (text : List Char) :
    cutAtEquals (name ++ '=' :: text) = (name, some text) := by
  induction name with
  | nil => rfl
  | cons c name ih =>
      rw [List.mem_cons, not_or] at h
      rw [List.cons_append, cutAtEquals, ih h.2]
      exact fun heq => h.1 heq.symm

namespace Argument

theorem ofText_of_two_dashes {text : String} {rest : List Char}
    (h : text.toList = '-' :: '-' :: rest) (hne : rest ≠ []) :
    ofText text = .long (String.ofList (cutAtEquals rest).1)
      ((cutAtEquals rest).2.map String.ofList) := by
  unfold ofText
  split <;> simp_all

theorem ofText_of_letters {letters : List Char} (hne : letters ≠ [])
    (hhead : letters.head? ≠ some '-') :
    ofText (String.ofList ('-' :: letters)) = .cluster letters := by
  unfold ofText
  rw [String.toList_ofList]
  split <;> simp_all

theorem ofText_long (opt : Opt) : ofText ("--" ++ opt.long) = .long opt.long none := by
  cases opt <;> decide

theorem ofText_longAttached (opt : Opt) (text : String) :
    ofText ("--" ++ opt.long ++ "=" ++ text) = .long opt.long (some text) := by
  have hname : opt.long.toList ≠ [] ∧ '=' ∉ opt.long.toList := by cases opt <;> decide
  have hlist : ("--" ++ opt.long ++ "=" ++ text).toList =
      '-' :: '-' :: (opt.long.toList ++ '=' :: text.toList) := by simp
  rw [ofText_of_two_dashes hlist (by simp), cutAtEquals_append hname.2]
  simp

end Argument

namespace Level

theorem longOption?_long {opt : Opt} (h : opt.isCommon = true) (level : Level) :
    level.longOption? opt.long = some opt := by
  revert h
  cases level <;> cases opt <;> decide

theorem shortOption?_short {opt : Opt} {letter : Char} (h : opt.isCommon = true)
    (hletter : opt.short? = some letter) (level : Level) :
    level.shortOption? letter = some opt := by
  revert h
  cases opt <;> simp only [Opt.short?, Option.some.injEq, reduceCtorEq] at hletter <;>
    subst hletter <;> cases level <;> decide

theorem subcommand?_of_dash {text : String} (h : text.toList.head? = some '-') (level : Level) :
    level.subcommand? text = none := by
  unfold subcommand?
  split
  case h_8 => rfl
  all_goals exact absurd h (by decide)

end Level

/-! ## What a spelling gives -/

namespace Reading

variable {vars : OptionVariables} {level : Level} {r : Reading} {opt : Opt} {given : Given}

def outcome (r : Reading) (level : Level) : Except UsageError Given := do
  return (← r.settle level).given

/-- What is given once what was begun is complete and then some entries are taken. -/
def taking (r : Reading) (level : Level) (entries : List Entry) : Except UsageError Given := do
  entries.foldlM Given.add (← r.outcome level)

def waiting (given : Given) (last : Option Opt) : Reading :=
  ⟨given, last.elim .nothing (.option · none), false⟩

theorem outcome_option (given : Given) (opt : Opt) (value : String) :
    outcome ⟨given, .option opt (some value), false⟩ level = given.addValue value opt := by
  simp only [outcome, settle]
  cases given.addValue value opt <;> rfl

theorem taking_append (r : Reading) (level : Level) (front entries : List Entry) :
    r.taking level (front ++ entries) =
      r.taking level front >>= fun given => entries.foldlM Given.add given := by
  simp only [taking, List.foldlM_append, bind_assoc]

theorem taking_option (given : Given) (opt : Opt) (value : String) (entries : List Entry) :
    taking ⟨given, .option opt (some value), false⟩ level entries =
      (.value opt value :: entries).foldlM Given.add given := by
  rw [taking, outcome_option, List.foldlM_cons]
  rfl

theorem settle_eq (r : Reading) (level : Level) :
    r.settle level = r.outcome level >>= fun given => .ok ⟨given, .nothing, r.literal⟩ := by
  cases hs : r.settle level with
  | error e =>
      rw [outcome, hs]
      rfl
  | ok s =>
      obtain ⟨hpending, hliteral, -⟩ := settle_eq_ok hs
      rw [outcome, hs, ← hpending, ← hliteral]
      rfl

theorem settle_eq_error {e : UsageError} (h : r.outcome level = .error e) :
    r.settle level = .error e := by
  rw [settle_eq, h]
  rfl

theorem takeOption_eq (r : Reading) (level : Level) (opt : Opt) :
    r.takeOption level opt = r.outcome level >>= fun given =>
      if opt.takesValue then .ok ⟨given, .option opt none, r.literal⟩
      else given.addSwitch opt >>= fun given => .ok ⟨given, .nothing, r.literal⟩ := by
  rw [takeOption, settle_eq, bind_assoc]
  rfl

theorem takeAttached_eq (htakes : opt.takesValue = true) (r : Reading) (level : Level)
    (value : String) :
    r.takeAttached level opt value = (r.outcome level >>= (·.addValue value opt)) >>= fun given =>
      .ok ⟨given, .nothing, r.literal⟩ := by
  rw [takeAttached, if_neg (by simp [htakes]), settle_eq, bind_assoc, bind_assoc]
  rfl

theorem values_foldlM_add {given given' : Given} {entries : List Entry}
    (h : entries.foldlM Given.add given = .ok given') : given'.values = given.values := by
  induction entries generalizing given with
  | nil => rw [Except.ok.inj h]
  | cons entry entries ih =>
      rw [List.foldlM_cons] at h
      obtain ⟨next, hnext, h⟩ := bind_eq_ok_iff.mp h
      rw [ih h]
      cases entry with
      | switch opt => exact values_addSwitch hnext
      | value opt text => exact values_addValue hnext

theorem Beside.of_taking {entries : List Entry} {pending : Pending} (hr : Beside {} r)
    (h : r.taking level entries = .ok given) (hcomplete : IsComplete ⟨given, pending, false⟩) :
    Beside {} ⟨given, pending, false⟩ := by
  obtain ⟨settled, hsettled, hentries⟩ := bind_eq_ok_iff.mp h
  obtain ⟨s, hs, hgiven⟩ := bind_eq_ok_iff.mp hsettled
  obtain rfl := Except.ok.inj hgiven
  refine ⟨hcomplete, rfl, ?_⟩
  rw [hcomplete.wordCount, values_foldlM_add hentries, ← IsComplete.wordCount (.inl (settle_eq_ok hs).1),
    hr.isComplete.wordCount_settle hs, hr.wordCount]

theorem takeLetters_spells {entries : List Entry} {last : Option Opt} {letters : List Char}
    (h : SpellsLetters entries last letters) (hne : letters ≠ []) (hliteral : r.literal = false) :
    r.takeLetters level letters =
      r.taking level entries >>= fun given => .ok (waiting given last) := by
  induction h generalizing r with
  | nil => exact absurd rfl hne
  | @switch opt letter entries last letters hentry hletter h ih =>
      have hrest : ∀ given : Given, takeLetters ⟨given, .nothing, false⟩ level letters =
          entries.foldlM Given.add given >>= fun given => .ok (waiting given last) := by
        intro given
        cases letters with
        | nil =>
            cases h
            rfl
        | cons letter letters => exact ih (List.cons_ne_nil _ _) rfl
      rw [takeLetters, Level.shortOption?_short hentry.1 hletter]
      simp only [hentry.2, Bool.false_eq_true, if_false, takeOption_eq, hliteral, bind_assoc,
        taking, List.foldlM_cons]
      exact bind_congr fun given => bind_congr hrest
  | @attached opt letter text hentry hletter htext hhead =>
      rw [takeLetters, Level.shortOption?_short hentry.1 hletter]
      simp only [hentry.2, if_true]
      split
      · exact absurd rfl htext
      · simp at hhead
      · rw [takeAttached_eq hentry.2, hliteral]
        simp only [taking, List.foldlM_cons, List.foldlM_nil, bind_pure]
        rfl
  | @equals opt letter text hentry hletter =>
      rw [takeLetters, Level.shortOption?_short hentry.1 hletter]
      simp only [hentry.2, if_true, takeAttached_eq hentry.2, hliteral, taking, List.foldlM_cons,
        List.foldlM_nil, bind_pure]
      rfl
  | @apart opt letter hcommon htakes hletter =>
      rw [takeLetters, Level.shortOption?_short hcommon hletter]
      simp only [htakes, if_true, takeOption_eq, hliteral, taking, List.foldlM_nil, bind_pure]
      rfl

theorem takeArgument_spells {entries : List Entry} {last : Option Opt} {text : String}
    (h : SpellsArgument entries last text) (hliteral : r.literal = false) :
    takeArgument level r text =
      r.taking level entries >>= fun given => .ok (waiting given last) := by
  rw [takeArgument, if_neg (by simp [hliteral])]
  cases h with
  | long hentry =>
      simp only [Argument.ofText_long, takeLong, Level.longOption?_long hentry.1, takeOption_eq,
        hentry.2, Bool.false_eq_true, if_false, hliteral, taking, List.foldlM_cons,
        List.foldlM_nil, bind_pure, bind_assoc]
      rfl
  | longAttached hentry =>
      simp only [Argument.ofText_longAttached, takeLong, Level.longOption?_long hentry.1,
        takeAttached_eq hentry.2, hliteral, taking, List.foldlM_cons, List.foldlM_nil, bind_pure]
      rfl
  | longApart hcommon htakes =>
      simp only [Argument.ofText_long, takeLong, Level.longOption?_long hcommon, takeOption_eq,
        htakes, if_true, hliteral, taking, List.foldlM_nil, bind_pure]
      rfl
  | letters hne h =>
      rw [Argument.ofText_of_letters hne h.head?_ne]
      exact takeLetters_spells h hne hliteral

theorem readLevel_spells {entries : List Entry} {last : Option Opt} {text : String}
    (h : SpellsArgument entries last text) (hliteral : r.literal = false) (rest : List String) :
    readLevel vars level r (text :: rest) =
      r.taking level entries >>= fun given => readLevel vars level (waiting given last) rest := by
  have hcommand : commandAt? level r text = none := by
    rw [commandAt?, Level.subcommand?_of_dash h.head?_eq, ite_self]
  rw [readLevel, hcommand]
  simp only [takeArgument_spells h hliteral, bind_assoc]
  rfl

theorem readLevel_value {text : String} (htext : Argument.ofText text = .word)
    (rest : List String) :
    readLevel vars level (waiting given (some opt)) (text :: rest) =
      readLevel vars level ⟨given, .option opt (some text), false⟩ rest := by
  rw [readLevel]
  simp only [commandAt?, takeArgument, htext, awaitsValue, takeValue, waiting, Option.elim]
  rfl

end Reading

/-- What reading these arguments comes to, whatever follows them: a state in which nothing more is
to be read, or an error. -/
inductive ReadsTo (vars : OptionVariables) (level : Level) (r : Reading) (args : List String)
    (result : Except UsageError Given) : Prop
  | complete {r' : Reading} (hr' : Reading.Beside {} r') (hresult : r'.outcome level = result)
      (h : ∀ rest, readLevel vars level r (args ++ rest) = readLevel vars level r' rest)
  | refused {e : UsageError} (hresult : result = .error e)
      (h : ∀ rest, readLevel vars level r (args ++ rest) = .error e)

namespace ReadsTo

variable {vars : OptionVariables} {level : Level} {r : Reading} {args : List String}
  {result : Except UsageError Given}

theorem eq_of_ok {given : Given} (h : ReadsTo vars level r args (.ok given)) (rest : List String) :
    readLevel vars level r (args ++ rest) = readLevel vars level { given := given } rest := by
  cases h with
  | @complete r' hr' hresult h =>
      have hsettle : r'.settle level = .ok { given := given } := by
        rw [Reading.settle_eq, hresult, hr'.literal]
        rfl
      rw [h, Reading.readLevel_settle hr'.isComplete hsettle]
  | refused hresult => cases hresult

theorem ne_ok_of_error {e : UsageError} (h : ReadsTo vars level r args (.error e))
    (rest : List String) (x : Given × Action) : readLevel vars level r (args ++ rest) ≠ .ok x := by
  cases h with
  | complete hr' hresult h =>
      rw [h]
      exact Reading.readLevel_refused hr'.isComplete (Reading.settle_eq_error hresult) rest x
  | refused hresult h =>
      rw [h]
      exact nofun

/-- The error is that of the arguments, unless there is one in what follows. -/
theorem eq_error_of_ok {e : UsageError} (h : ReadsTo vars level r args (.error e))
    {rest : List String} {x : Given × Action} (hok : readLevel vars level {} rest = .ok x) :
    readLevel vars level r (args ++ rest) = .error e := by
  cases h with
  | @complete r' hr' hresult h =>
      have hstart : Reading.Beside r' {} := ⟨.inl rfl, hr'.literal.symm, hr'.wordCount.symm⟩
      rw [h]
      exact Reading.readLevel_refused_of_ok hr'.isComplete (Reading.settle_eq_error hresult) hstart
        hok
  | refused hresult h =>
      rw [h, Except.error.inj hresult]

theorem cons {text : String} {before : Except UsageError Given} {next : Given → Reading}
    {after : Given → Except UsageError Given}
    (hread : ∀ rest, readLevel vars level r (text :: rest) =
      before >>= fun given => readLevel vars level (next given) rest)
    (hrest : ∀ given, before = .ok given → ReadsTo vars level (next given) args (after given)) :
    ReadsTo vars level r (text :: args) (before >>= after) := by
  cases hbefore : before with
  | error e =>
      rw [hbefore] at hread
      exact .refused rfl fun rest => hread (args ++ rest)
  | ok given =>
      rw [hbefore] at hread
      cases hrest given hbefore with
      | complete hr' hresult h =>
          exact .complete hr' hresult fun rest => (hread (args ++ rest)).trans (h rest)
      | refused hresult h =>
          exact .refused hresult fun rest => (hread (args ++ rest)).trans (h rest)

theorem value {given : Given} {opt : Opt} {text : String} (htext : Argument.ofText text = .word)
    (h : ReadsTo vars level ⟨given, .option opt (some text), false⟩ args result) :
    ReadsTo vars level (.waiting given (some opt)) (text :: args) result := by
  cases h with
  | complete hr' hresult h =>
      exact .complete hr' hresult fun rest =>
        (Reading.readLevel_value htext (args ++ rest)).trans (h rest)
  | refused hresult h =>
      exact .refused hresult fun rest =>
        (Reading.readLevel_value htext (args ++ rest)).trans (h rest)

end ReadsTo

section Spells

variable {vars : OptionVariables} {level : Level} {r : Reading} {entries : List Entry}
  {args : List String}

/-- Reading a spelling of common options takes its entries in order, at every level. -/
theorem readsTo_spells (h : Spells entries args) (hr : Reading.Beside {} r) :
    ReadsTo vars level r args (r.taking level entries) := by
  -- on the spelling: behind each of its arguments again nothing but an option is begun
  induction h generalizing r with
  | nil => exact .complete hr (bind_pure _).symm fun _ => rfl
  | cons hfirst h ih =>
      rw [Reading.taking_append]
      exact .cons (Reading.readLevel_spells hfirst hr.literal) fun given hgiven =>
        ih (r := .waiting given none) (hr.of_taking hgiven (.inl rfl))
  | @apart together entries opt text value args hfirst hvalue h ih =>
      rw [Reading.taking_append]
      refine .cons (Reading.readLevel_spells hfirst hr.literal) fun given hgiven => .value hvalue ?_
      rw [← Reading.taking_option]
      exact ih (hr.of_taking hgiven (.inr ⟨opt, value, rfl⟩))

/-- A refused entry is found within the spelling, unless it is the last one and its value is an
argument of its own. The state may hold a refused value already, which an empty spelling does not
find either. -/
theorem readLevel_spells_error (vars : OptionVariables) (level : Level) {e : UsageError}
    (h : Spells entries args) (hr : r.IsComplete) (hliteral : r.literal = false)
    (herror : r.taking level entries = .error e) :
    (∀ rest, readLevel vars level r (args ++ rest) = .error e) ∨ args = [] ∨
      ∃ front opt value, entries = front ++ [.value opt value] ∧ args.getLast? = some value ∧
        Argument.ofText value = .word ∧ ∃ given, r.taking level front = .ok given := by
  induction h generalizing r with
  | nil => exact .inr (.inl rfl)
  | @cons together entries text args hfirst h ih =>
      rw [Reading.taking_append] at herror
      simp only [List.cons_append, Reading.readLevel_spells hfirst hliteral]
      cases hbefore : r.taking level together with
      | error e' =>
          rw [hbefore] at herror
          obtain rfl := Except.error.inj herror
          exact .inl fun _ => rfl
      | ok given =>
          rw [hbefore] at herror
          rcases ih (r := .waiting given none) (.inl rfl) rfl herror with
            hfound | rfl | ⟨front, opt, value, rfl, hlast, hvalue, given', hfront⟩
          · exact .inl hfound
          · cases h
            cases herror
          · refine .inr (.inr ⟨together ++ front, opt, value, ?_, ?_, hvalue, given', ?_⟩)
            · rw [List.append_assoc]
            · rw [List.getLast?_cons, hlast, Option.getD_some]
            · rw [Reading.taking_append, hbefore]
              exact hfront
  | @apart together entries opt text value args hfirst hvalue h ih =>
      rw [Reading.taking_append] at herror
      simp only [List.cons_append, Reading.readLevel_spells hfirst hliteral,
        Reading.readLevel_value hvalue]
      cases hbefore : r.taking level together with
      | error e' =>
          rw [hbefore] at herror
          obtain rfl := Except.error.inj herror
          exact .inl fun _ => rfl
      | ok given =>
          rw [hbefore] at herror
          let pending : Reading := ⟨given, .option opt (some value), false⟩
          have htaking (es : List Entry) : pending.taking level es =
              (.value opt value :: es).foldlM Given.add given := Reading.taking_option ..
          have hpending : pending.taking level entries = .error e := (htaking entries).trans herror
          rcases ih (r := pending) (.inr ⟨opt, value, rfl⟩) rfl hpending with
            hfound | rfl | ⟨front, opt', value', rfl, hlast, hvalue', given', hfront⟩
          · exact .inl hfound
          · cases h
            exact .inr (.inr ⟨together, opt, value, rfl, rfl, hvalue, given, hbefore⟩)
          · refine .inr (.inr ⟨together ++ .value opt value :: front, opt', value', ?_, ?_, hvalue',
              given', ?_⟩)
            · rw [List.append_assoc, List.cons_append]
            · rw [List.getLast?_cons, List.getLast?_cons, hlast, Option.getD_some, Option.getD_some]
            · rw [Reading.taking_append, hbefore]
              exact (htaking front).symm.trans hfront

end Spells

end Scaffold.Command
