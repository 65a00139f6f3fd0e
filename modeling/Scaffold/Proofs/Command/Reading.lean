import Scaffold.Command.Arguments
import Scaffold.Proofs.Run.Phases
/-!
# Reading an argument

What reading an argument does. An option is met as soon as it is named, even if its value is still
to come, and nothing that is read takes it back. So the options met at a level are the ones its
arguments name, up to two dashes.
-/

namespace Scaffold.Command

open Run (bind_eq_ok_iff)

/-! ## Options that arguments name -/

namespace Level

/-- The options that letters name; a letter that is no option ends them, as does one whose value
the other letters are. -/
def optionsOfLetters (level : Level) : List Char → List Opt
  | [] => []
  | letter :: letters =>
    match level.shortOption? letter with
    | none => []
    | some opt => if opt.takesValue then [opt] else opt :: level.optionsOfLetters letters

def optionsOf (level : Level) (text : String) : List Opt :=
  match Argument.ofText text with
  | .long name _ => (level.longOption? name).toList
  | .cluster letters => level.optionsOfLetters letters
  | .dashes | .word => []

/-- Whether the last of some letters is an option whose value is the next argument. -/
def lettersWait (level : Level) : List Char → Bool
  | [] => false
  | letter :: letters =>
    match level.shortOption? letter with
    | none => false
    | some opt => if opt.takesValue then letters.isEmpty else level.lettersWait letters

def waits (level : Level) (text : String) : Bool :=
  match Argument.ofText text with
  | .long name none => (level.longOption? name).any Opt.takesValue
  | .cluster letters => level.lettersWait letters
  | _ => false

end Level

namespace Argument

theorem ofText_eq_dashes_iff {text : String} : ofText text = .dashes ↔ text = "--" := by
  rw [← String.toList_inj]
  unfold ofText
  split <;> simp_all

theorem ne_nil_of_ofText_eq_cluster {text : String} {letters : List Char}
    (h : ofText text = .cluster letters) : letters ≠ [] := by
  rintro rfl
  unfold ofText at h
  split at h <;> simp_all

end Argument

/-! ## Options that were given -/

namespace Given

def Has (given : Given) : Opt → Prop
  | .verbose => 0 < given.verbose
  | .quiet => given.quiet = true
  | .noColor => given.noColor = true
  | .dryRun => given.dryRun = true
  | .config => given.config.isSome = true
  | .format => given.format.isSome = true
  | .root => given.root.isSome = true
  | .migrations => given.migrations.isSome = true
  | .templates => given.templates.isSome = true
  | .help | .version => False

theorem setSwitch_eq_ok_iff {old new : Bool} :
    setSwitch old = .ok new ↔ old = false ∧ new = true := by
  cases old <;> simp [setSwitch, eq_comm]

theorem setValue_eq_ok_iff {old new : Option String} {emptyAllowed : Bool} {value : String} :
    setValue old emptyAllowed value = .ok new ↔
      old = none ∧ (value = "" → emptyAllowed = true) ∧ new = some value := by
  unfold setValue
  split
  · next hold => simp [Option.ne_none_iff_isSome.mpr hold]
  · next hold =>
      have hnone : old = none := by simpa using hold
      split
      · next hempty =>
          refine iff_of_false nofun fun ⟨_, hallowed, _⟩ => ?_
          simp [hallowed hempty.1] at hempty
      · next hempty =>
          have hallowed : value = "" → emptyAllowed = true := by simpa using hempty
          rw [and_iff_right hnone, and_iff_right hallowed, Except.ok.injEq, eq_comm]

variable {given given' : Given} {opt : Opt}

theorem has_addSwitch (h : given.addSwitch opt = .ok given') (o : Opt) :
    given'.Has o ↔ given.Has o ∨ o = opt := by
  cases opt with
  | verbose =>
      obtain rfl := Except.ok.inj h
      cases o with
      | verbose => exact iff_of_true (by simp only [Has]; omega) (.inr rfl)
      | _ => simp [Has]
  | quiet | noColor | dryRun =>
      obtain ⟨switch, hswitch, hset⟩ := bind_eq_ok_iff.mp h
      obtain ⟨hold, rfl⟩ := setSwitch_eq_ok_iff.mp hswitch
      obtain rfl := Except.ok.inj hset
      cases o <;> simp [Has]
  | config | format | help | version | root | migrations | templates => cases h

theorem has_addValue {value : String} (h : given.addValue value opt = .ok given') (o : Opt) :
    given'.Has o ↔ given.Has o ∨ o = opt := by
  cases opt with
  | config | root | migrations | templates =>
      obtain ⟨new, hnew, hset⟩ := bind_eq_ok_iff.mp h
      obtain ⟨hold, -, rfl⟩ := setValue_eq_ok_iff.mp hnew
      obtain rfl := Except.ok.inj hset
      cases o <;> simp [Has]
  | format =>
      rw [addValue] at h
      split at h
      · cases h
      · split at h
        · obtain rfl := Except.ok.inj h
          cases o <;> simp [Has]
        · cases h
  | verbose | quiet | noColor | dryRun | help | version => cases h

theorem has_addWords {level : Level} {words : List String}
    (h : given.addWords level words = .ok given') (o : Opt) : given'.Has o ↔ given.Has o := by
  unfold addWords at h
  split at h
  · split at h
    · obtain rfl := Except.ok.inj h
      cases o <;> rfl
    · cases h
  · obtain rfl := Except.ok.inj h
    cases o <;> rfl

theorem has_within {inner outer : Given} {o : Opt} (ho : o = .quiet ∨ o = .verbose) :
    (inner.within outer).Has o ↔ inner.Has o ∨ outer.Has o := by
  rcases ho with rfl | rfl
  · simp [Has, within]
  · simp only [Has, within]
    split <;> omega

end Given

theorem has_addVariables {vars : OptionVariables} {level : Level} {given given' : Given}
    (h : addVariables vars level given = .ok given') {o : Opt} (ho : o = .quiet ∨ o = .verbose) :
    given'.Has o ↔ given.Has o := by
  unfold addVariables at h
  split at h
  · rw [Given.has_addValue h, or_iff_left]
    rcases ho with rfl | rfl <;> simp
  · rw [Except.ok.inj h]

theorem checkConflict_eq_ok_iff {given : Given} :
    checkConflict given = .ok () ↔ ¬ (given.Has .quiet ∧ given.Has .verbose) := by
  unfold checkConflict
  split
  · next hboth => exact iff_of_false nofun (not_not_intro hboth)
  · next hboth => exact iff_of_true rfl hboth

/-! ## Options that were met -/

namespace Reading

variable {level : Level} {r r' : Reading} {opt : Opt}

/-- Whether an option was met: it was given, or its value is to come. -/
def Meets (r : Reading) (opt : Opt) : Prop :=
  r.given.Has opt ∨ ∃ value, r.pending = .option opt value

/-- What is read names these options, and what comes next is a value or not. -/
structure Follows (r r' : Reading) (options : List Opt) (waits : Bool) : Prop where
  literal : r'.literal = r.literal
  awaits : r'.awaitsValue = waits
  meets : ∀ o, r'.Meets o ↔ r.Meets o ∨ o ∈ options

theorem meets_of_nothing (h : r.pending = .nothing) (o : Opt) : r.Meets o ↔ r.given.Has o := by
  simp [Meets, h]

theorem not_meets_start (o : Opt) : ¬ ({} : Reading).Meets o := by
  rw [meets_of_nothing rfl]
  cases o <;> simp [Given.Has]

/-- What is complete has met the same options. -/
theorem settle_eq_ok (h : r.settle level = .ok r') :
    r'.pending = .nothing ∧ r'.literal = r.literal ∧ ∀ o, r'.given.Has o ↔ r.Meets o := by
  unfold settle at h
  split at h
  · next hpending =>
      obtain rfl := Except.ok.inj h
      exact ⟨hpending, rfl, fun o => (meets_of_nothing hpending o).symm⟩
  · cases h
  · next opt value hpending =>
      obtain ⟨given, hgiven, hr⟩ := bind_eq_ok_iff.mp h
      obtain rfl := Except.ok.inj hr
      refine ⟨rfl, rfl, fun o => ?_⟩
      simp [Given.has_addValue hgiven, Meets, hpending, eq_comm]
  · next words hpending =>
      obtain ⟨given, hgiven, hr⟩ := bind_eq_ok_iff.mp h
      obtain rfl := Except.ok.inj hr
      refine ⟨rfl, rfl, fun o => ?_⟩
      simp [Given.has_addWords hgiven, Meets, hpending]

theorem follows_takeOption (h : r.takeOption level opt = .ok r') :
    Follows r r' [opt] opt.takesValue := by
  obtain ⟨s, hs, h⟩ := bind_eq_ok_iff.mp h
  obtain ⟨hpending, hliteral, hmet⟩ := settle_eq_ok hs
  cases htakes : opt.takesValue with
  | true =>
      rw [if_pos htakes] at h
      obtain rfl := Except.ok.inj h
      refine ⟨hliteral, rfl, fun o => ?_⟩
      simp [Meets, hmet, eq_comm]
  | false =>
      rw [if_neg (by simp [htakes])] at h
      obtain ⟨given, hgiven, h⟩ := bind_eq_ok_iff.mp h
      obtain rfl := Except.ok.inj h
      refine ⟨hliteral, by simp [awaitsValue, hpending], fun o => ?_⟩
      rw [meets_of_nothing (r := ⟨given, s.pending, s.literal⟩) hpending,
        Given.has_addSwitch hgiven, hmet, List.mem_singleton]

theorem follows_takeAttached {value : String} (h : r.takeAttached level opt value = .ok r') :
    Follows r r' [opt] false := by
  rw [takeAttached] at h
  split at h
  · cases h
  · obtain ⟨s, hs, h⟩ := bind_eq_ok_iff.mp h
    obtain ⟨given, hgiven, h⟩ := bind_eq_ok_iff.mp h
    obtain ⟨hpending, hliteral, hmet⟩ := settle_eq_ok hs
    obtain rfl := Except.ok.inj h
    refine ⟨hliteral, by simp [awaitsValue, hpending], fun o => ?_⟩
    rw [meets_of_nothing (r := ⟨given, s.pending, s.literal⟩) hpending,
      Given.has_addValue hgiven, hmet, List.mem_singleton]

theorem follows_takeLong {name : String} {attached : Option String}
    (h : r.takeLong level name attached = .ok r') :
    Follows r r' (level.longOption? name).toList
      (attached.isNone && (level.longOption? name).any Opt.takesValue) := by
  unfold takeLong at h
  split at h
  · cases h
  · next opt hopt =>
      rw [hopt]
      exact follows_takeOption h
  · next opt value hopt =>
      rw [hopt]
      exact follows_takeAttached h

theorem follows_takeLetters {letters : List Char} (h : r.takeLetters level letters = .ok r')
    (hwait : letters = [] → r.awaitsValue = false) :
    Follows r r' (level.optionsOfLetters letters) (level.lettersWait letters) := by
  induction letters generalizing r with
  | nil =>
      obtain rfl := Except.ok.inj h
      exact ⟨rfl, hwait rfl, fun o => by simp [Level.optionsOfLetters]⟩
  | cons letter letters ih =>
      cases hopt : level.shortOption? letter with
      | none => simp [takeLetters, hopt] at h
      | some opt =>
          simp only [takeLetters, hopt] at h
          simp only [Level.optionsOfLetters, Level.lettersWait, hopt]
          cases htakes : opt.takesValue with
          | true =>
              rw [if_pos htakes] at h
              split at h
              · simpa [htakes] using follows_takeOption h
              · simpa using follows_takeAttached h
              · next hne _ =>
                  rw [List.isEmpty_eq_false_iff.mpr hne]
                  simpa using follows_takeAttached h
          | false =>
              rw [if_neg (by simp [htakes])] at h
              obtain ⟨next, hnext, h⟩ := bind_eq_ok_iff.mp h
              have hfirst := follows_takeOption hnext
              have hrest := ih h fun _ => hfirst.awaits.trans htakes
              refine ⟨hrest.literal.trans hfirst.literal, hrest.awaits, fun o => ?_⟩
              rw [hrest.meets, hfirst.meets]
              simp [or_assoc]

theorem follows_takeWord {word : String} (h : r.takeWord level word = .ok r') :
    Follows r r' [] false := by
  unfold takeWord at h
  split at h
  · split at h
    · next words hpending =>
        obtain rfl := Except.ok.inj h
        exact ⟨rfl, rfl, fun o => by simp [Meets, hpending]⟩
    · obtain ⟨s, hs, h⟩ := bind_eq_ok_iff.mp h
      obtain ⟨-, hliteral, hmet⟩ := settle_eq_ok hs
      obtain rfl := Except.ok.inj h
      exact ⟨hliteral, rfl, fun o => by simp [Meets, hmet]⟩
  · cases h

theorem follows_takeValue {value : String} (h : r.awaitsValue = true) :
    Follows r (r.takeValue value) [] false := by
  unfold awaitsValue at h
  split at h
  · next opt hpending =>
      unfold takeValue
      simp only [hpending]
      exact ⟨rfl, rfl, fun o => by simp [Meets, hpending]⟩
  · cases h

theorem follows_takeArgument_of_literal {text : String} (hliteral : r.literal = true)
    (h : takeArgument level r text = .ok r') : Follows r r' [] false := by
  rw [takeArgument, if_pos hliteral] at h
  exact follows_takeWord h

/-- An argument that is not two dashes meets the options it names. -/
theorem follows_takeArgument {text : String} (hliteral : r.literal = false) (htext : text ≠ "--")
    (h : takeArgument level r text = .ok r') :
    Follows r r' (level.optionsOf text) (level.waits text) := by
  rw [takeArgument, if_neg (by simp [hliteral])] at h
  cases hkind : Argument.ofText text with
  | dashes => exact absurd (Argument.ofText_eq_dashes_iff.mp hkind) htext
  | long name attached =>
      simp only [hkind] at h
      simp only [Level.optionsOf, Level.waits, hkind]
      cases attached with
      | none => simpa using follows_takeLong h
      | some value => simpa using follows_takeLong h
  | cluster letters =>
      simp only [hkind] at h
      simp only [Level.optionsOf, Level.waits, hkind]
      exact follows_takeLetters h fun hnil =>
        absurd hnil (Argument.ne_nil_of_ofText_eq_cluster hkind)
  | word =>
      simp only [hkind] at h
      simp only [Level.optionsOf, Level.waits, hkind]
      split at h
      · next hawaits =>
          obtain rfl := Except.ok.inj h
          exact follows_takeValue hawaits
      · exact follows_takeWord h

theorem takeArgument_dashes (hliteral : r.literal = false) :
    takeArgument level r "--" = .ok { r with literal := true } := by
  rw [takeArgument, if_neg (by simp [hliteral]), Argument.ofText_eq_dashes_iff.mpr rfl]

end Reading

end Scaffold.Command
