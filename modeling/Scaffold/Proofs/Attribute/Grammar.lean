import Scaffold.Proofs.Attribute.Specification
/-!
# The grammar of specifications

What a specification must look like. It is read exactly if it has none of six faults, and otherwise
the failure names the first one of them, in a fixed order, and repeats the specification as it was
given.
-/

namespace Scaffold

open Text

namespace Attribute

/-! ## The parts of a specification -/

/-- The name in a specification: what stands before the first colon, or all of it. -/
def nameOf (text : List Char) : List Char :=
  trim (text.takeWhile fun c => c ≠ ':')

/-- The type in a specification: what stands after the first colon. -/
def typeOf (text : List Char) : List Char :=
  trim (text.dropWhile fun c => c ≠ ':').tail

def IsLetter (c : Char) : Prop :=
  'A' ≤ c ∧ c ≤ 'Z' ∨ 'a' ≤ c ∧ c ≤ 'z'

def IsNamePart (c : Char) : Prop :=
  IsLetter c ∨ '0' ≤ c ∧ c ≤ '9' ∨ c = '_' ∨ c = '-'

/-- A text that matches `[A-Za-z][A-Za-z0-9_-]*`. -/
def MatchesName (name : List Char) : Prop :=
  ∃ first rest, name = first :: rest ∧ IsLetter first ∧ ∀ c ∈ rest, IsNamePart c

theorem isLetter_iff {c : Char} : IsLetter c ↔ c.isAlpha = true := by
  unfold IsLetter Char.isAlpha Char.isUpper Char.isLower
  simp only [Bool.or_eq_true, Bool.and_eq_true, decide_eq_true_eq, Char.le_def, ge_iff_le]

theorem isNamePart_iff {c : Char} : IsNamePart c ↔ isNameCharacter c = true := by
  unfold IsNamePart isNameCharacter Char.isAlphanum Char.isDigit
  simp only [isLetter_iff, Bool.or_eq_true, Bool.and_eq_true, decide_eq_true_eq, Char.le_def,
    ge_iff_le, or_assoc]

/-! ## Faults -/

/-- A text has a fault, whatever else is wrong with it. -/
def HasFault (text : List Char) : Fault → Prop
  | .empty => text = []
  | .severalColons => 1 < text.count ':'
  | .nameMissing => nameOf text = []
  | .badFirst => ∃ first rest, nameOf text = first :: rest ∧ ¬ IsLetter first
  | .badCharacter c => ∃ before after, nameOf text = before ++ c :: after ∧ ¬ IsNamePart c ∧
      ∀ d ∈ before, IsNamePart d
  | .typeMissing => ':' ∈ text ∧ typeOf text = []

def Fault.rank : Fault → Nat
  | empty => 0
  | severalColons => 1
  | nameMissing => 2
  | badFirst => 3
  | badCharacter _ => 4
  | typeMissing => 5

/-- The fault of a text that is looked for first. -/
structure FirstFault (text : List Char) (fault : Fault) : Prop where
  present : HasFault text fault
  first : ∀ other, HasFault text other → fault.rank ≤ other.rank

theorem FirstFault.of_absent {text : List Char} {fault : Fault} (h : HasFault text fault)
    (habsent : ∀ other, other.rank < fault.rank → ¬ HasFault text other) :
    FirstFault text fault :=
  ⟨h, fun other hother => Nat.le_of_not_lt fun hlt => habsent other hlt hother⟩

theorem hasFault_badCharacter_iff {text : List Char} {c : Char} :
    HasFault text (.badCharacter c) ↔
      (nameOf text).find? (fun d => !isNameCharacter d) = some c := by
  rw [List.find?_eq_some_iff_append]
  simp only [HasFault, isNamePart_iff, Bool.not_eq_true', Bool.not_eq_true, Bool.not_not]
  constructor
  · rintro ⟨before, after, hname, hc, hbefore⟩
    exact ⟨hc, before, after, hname, hbefore⟩
  · rintro ⟨hc, before, after, hname, hbefore⟩
    exact ⟨before, after, hname, hc, hbefore⟩

theorem Fault.eq_of_rank_eq {fault other : Fault} (h : fault.rank = other.rank) :
    fault = other ∨ ∃ c d, fault = .badCharacter c ∧ other = .badCharacter d := by
  cases fault <;> cases other <;> simp_all [Fault.rank]

theorem FirstFault.unique {text : List Char} {fault other : Fault} (h : FirstFault text fault)
    (hother : FirstFault text other) : fault = other := by
  have hrank := Nat.le_antisymm (h.first other hother.present) (hother.first fault h.present)
  rcases Fault.eq_of_rank_eq hrank with heq | ⟨c, d, rfl, rfl⟩
  · exact heq
  · -- both are the first character of the name that may not stand in it
    have hc := hasFault_badCharacter_iff.mp h.present
    rw [hasFault_badCharacter_iff.mp hother.present] at hc
    rw [Option.some.inj hc]

/-! ## Reading -/

theorem nameOf_nil : nameOf [] = [] := rfl

theorem ofText_of_one_part {text : List Char} (hne : text ≠ []) (hcolon : ':' ∉ text) :
    ofText text = ofParts (nameOf text) none := by
  have hname : text.takeWhile (fun c => c ≠ ':') = text := by
    rw [List.takeWhile_eq_self_iff]
    intro c hc
    simpa using ne_of_mem_of_not_mem hc hcolon
  rw [ofText, if_neg (by simpa using hne), fields_of_notMem hcolon, nameOf, hname]

theorem ofText_of_parts {text : List Char} (hcolon : ':' ∈ text) :
    ofText text =
      if 1 < text.count ':' then .error .severalColons
      else ofParts (nameOf text) (some (typeOf text)) := by
  have hne : text ≠ [] := List.ne_nil_of_mem hcolon
  have htext := eq_takeWhile_append_separator hcolon
  have hbefore := separator_notMem_takeWhile ':' text
  rw [ofText, if_neg (by simpa using hne), nameOf, typeOf]
  generalize text.takeWhile (fun c => decide (c ≠ ':')) = before at *
  generalize (text.dropWhile (fun c => decide (c ≠ ':'))).tail = after at *
  subst htext
  rw [fields_append_separator, fields_of_notMem hbefore, List.count_append,
    List.count_eq_zero.mpr hbefore, List.count_cons_self, Nat.zero_add]
  by_cases hafter : ':' ∈ after
  · obtain ⟨field, rest, hrest⟩ := exists_fields_eq_cons ':' (after.dropWhile (· ≠ ':')).tail
    have hfields : fields ':' after = after.takeWhile (· ≠ ':') :: field :: rest := by
      conv_lhs => rw [eq_takeWhile_append_separator hafter]
      rw [fields_append_separator, fields_of_notMem (separator_notMem_takeWhile ':' after), hrest]
      rfl
    rw [hfields, if_pos (Nat.succ_lt_succ (List.count_pos_iff.mpr hafter))]
    rfl
  · rw [fields_of_notMem hafter, if_neg (by simp [List.count_eq_zero.mpr hafter])]
    rfl

theorem hasFault_of_nameFault? {text : List Char} {fault : Fault}
    (h : nameFault? (nameOf text) = some fault) :
    HasFault text fault ∧ ∀ other, other.rank < fault.rank → HasFault text other →
      other = .empty ∨ other = .severalColons := by
  cases hname : nameOf text with
  | nil =>
      rw [hname] at h
      obtain rfl := Option.some.inj h
      refine ⟨hname, fun other hrank _ => ?_⟩
      cases other <;> simp_all [Fault.rank]
  | cons first rest =>
      rw [hname, nameFault?] at h
      split at h
      · next hfirst =>
        obtain ⟨c, hc, rfl⟩ := Option.map_eq_some_iff.mp h
        rw [← hname] at hc
        refine ⟨hasFault_badCharacter_iff.mpr hc, fun other hrank hother => ?_⟩
        cases other <;> simp_all [Fault.rank, HasFault, isLetter_iff]
      · next hfirst =>
        obtain rfl := Option.some.inj h
        refine ⟨⟨first, rest, hname, mt isLetter_iff.mp hfirst⟩, fun other hrank hother => ?_⟩
        cases other <;> simp_all [Fault.rank, HasFault]

theorem matchesName_iff {name : List Char} : MatchesName name ↔ nameFault? name = none := by
  rw [nameFault?_eq_none_iff]
  simp only [MatchesName, isLetter_iff, isNamePart_iff]
  constructor
  · rintro ⟨first, rest, rfl, hfirst, hrest⟩
    refine ⟨⟨first, rfl, hfirst⟩, fun c hc => ?_⟩
    rcases List.mem_cons.mp hc with rfl | hc
    · simp [isNameCharacter, Char.isAlphanum, hfirst]
    · exact hrest c hc
  · rintro ⟨⟨first, hhead, hfirst⟩, hall⟩
    obtain ⟨rest, rfl⟩ := List.head?_eq_some_iff.mp hhead
    exact ⟨first, rest, rfl, hfirst, fun c hc => hall c (List.mem_cons_of_mem _ hc)⟩

theorem fault_of_matchesName {text : List Char} {fault : Fault} (h : MatchesName (nameOf text))
    (hfault : HasFault text fault) :
    fault = .empty ∨ fault = .severalColons ∨ fault = .typeMissing := by
  cases fault with
  | empty => exact .inl rfl
  | severalColons => exact .inr (.inl rfl)
  | typeMissing => exact .inr (.inr rfl)
  | nameMissing =>
      obtain ⟨first, rest, hname, -⟩ := h
      rw [HasFault, hname] at hfault
      cases hfault
  | badFirst =>
      obtain ⟨first, rest, hname, hfirst, -⟩ := h
      obtain ⟨other, others, hother, hbad⟩ := hfault
      rw [hname] at hother
      obtain ⟨rfl, -⟩ := List.cons.inj hother
      exact absurd hfirst hbad
  | badCharacter c =>
      have hall := (nameFault?_eq_none_iff.mp (matchesName_iff.mp h)).2
      obtain ⟨before, after, hname, hbad, -⟩ := hfault
      exact absurd (isNamePart_iff.mpr (hall c (by simp [hname]))) hbad

theorem ofText_eq_ok_iff {text : List Char} {a : Attribute} :
    ofText text = .ok a ↔
      text.count ':' ≤ 1 ∧ MatchesName (nameOf text) ∧ (':' ∈ text → typeOf text ≠ []) ∧
        a = make (String.ofList (nameOf text))
          (if ':' ∈ text then String.ofList (typeOf text) else defaultType) := by
  rw [matchesName_iff]
  by_cases hcolon : ':' ∈ text
  · rw [ofText_of_parts hcolon]
    split
    · next hseveral => simp [Nat.not_le_of_lt hseveral]
    · next hsingle => simp [ofParts_eq_ok_iff, hcolon, Nat.le_of_not_lt hsingle]
  · by_cases hempty : text = []
    · subst hempty
      simp [ofText, nameOf_nil, nameFault?]
    · simp [ofText_of_one_part hempty hcolon, ofParts_eq_ok_iff, hcolon,
        List.count_eq_zero.mpr hcolon]

/-! ## Failing -/

theorem ofParts_eq_error_iff {name : List Char} {type? : Option (List Char)} {fault : Fault} :
    ofParts name type? = .error fault ↔
      nameFault? name = some fault ∨
        nameFault? name = none ∧ type? = some [] ∧ fault = .typeMissing := by
  cases hname : nameFault? name with
  | some found => simp [ofParts, hname]
  | none =>
      rcases type? with _ | _ | ⟨c, cs⟩
      · simp [ofParts, hname]
      · simp [ofParts, hname, eq_comm]
      · simp [ofParts, hname]

theorem firstFault_of_ofParts {text : List Char} {type? : Option (List Char)} {fault : Fault}
    (hne : text ≠ []) (hsingle : ¬ 1 < text.count ':')
    (htype : type? = some [] → ':' ∈ text ∧ typeOf text = [])
    (h : ofParts (nameOf text) type? = .error fault) : FirstFault text fault := by
  rcases ofParts_eq_error_iff.mp h with hname | ⟨hname, hmissing, rfl⟩
  · obtain ⟨hfault, hbefore⟩ := hasFault_of_nameFault? hname
    refine .of_absent hfault fun other hrank hother => ?_
    rcases hbefore other hrank hother with rfl | rfl
    · exact hne hother
    · exact hsingle hother
  · refine .of_absent (htype hmissing) fun other hrank hother => ?_
    rcases fault_of_matchesName (matchesName_iff.mpr hname) hother with rfl | rfl | rfl
    · exact hne hother
    · exact hsingle hother
    · exact Nat.lt_irrefl _ hrank

theorem firstFault_of_ofText {text : List Char} {fault : Fault} (h : ofText text = .error fault) :
    FirstFault text fault := by
  by_cases hempty : text = []
  · subst hempty
    obtain rfl := Except.error.inj h
    exact .of_absent rfl fun _ hrank => absurd hrank (Nat.not_lt_zero _)
  · by_cases hcolon : ':' ∈ text
    · rw [ofText_of_parts hcolon] at h
      split at h
      · next hseveral =>
        obtain rfl := Except.error.inj h
        refine .of_absent hseveral fun other hrank hother => ?_
        cases other <;> simp_all [Fault.rank, HasFault]
      · next hsingle =>
        exact firstFault_of_ofParts hempty hsingle (fun htype => ⟨hcolon, Option.some.inj htype⟩) h
    · rw [ofText_of_one_part hempty hcolon] at h
      refine firstFault_of_ofParts hempty ?_ (fun htype => by cases htype) h
      simp [List.count_eq_zero.mpr hcolon]

theorem ofText_eq_error_iff {text : List Char} {fault : Fault} :
    ofText text = .error fault ↔ FirstFault text fault := by
  refine ⟨firstFault_of_ofText, fun hfirst => ?_⟩
  cases h : ofText text with
  | error found => rw [(firstFault_of_ofText h).unique hfirst]
  | ok a =>
      -- what is read has no fault at all
      obtain ⟨hsingle, hname, htype, -⟩ := ofText_eq_ok_iff.mp h
      have hpresent := hfirst.present
      rcases fault_of_matchesName hname hpresent with rfl | rfl | rfl
      · rw [show text = [] from hpresent] at h
        cases h
      · exact absurd hsingle (Nat.not_le_of_lt hpresent)
      · exact absurd hpresent.2 (htype hpresent.1)

theorem parse_eq_error_iff {spec : String} {failure : Failure} :
    parse spec = .error failure ↔
      ∃ fault, FirstFault (trim spec.toList) fault ∧
        failure = .invalidAttribute spec fault.message := by
  simp only [← ofText_eq_error_iff]
  rw [parse]
  cases ofText (trim spec.toList) <;> simp [eq_comm]

/-- A specification is read exactly if, without its outer blanks, it holds at most one colon, the
name before it matches `[A-Za-z][A-Za-z0-9_-]*`, and the type after it, if there is a colon, is not
empty. The attribute has that name and that type, `string` if there is no colon, and it is reserved
exactly if its name in snake case is one of five. Otherwise the failure holds the specification as
it was given and describes the first of six faults that it has. -/
theorem parse_accepts_exactly (spec : String) :
    let text := trim spec.toList
    let name := trim (text.takeWhile fun c => c ≠ ':')
    let type := trim (text.dropWhile fun c => c ≠ ':').tail
    ((∃ a, parse spec = .ok a) ↔
      text.count ':' ≤ 1 ∧
      (∃ first rest, name = first :: rest ∧ IsLetter first ∧ ∀ c ∈ rest, IsNamePart c) ∧
      (':' ∈ text → type ≠ [])) ∧
    (∀ a, parse spec = .ok a →
      a.name = String.ofList name ∧
      a.typeTag = (if ':' ∈ text then String.ofList type else "string") ∧
      (a.isReserved = true ↔
        String.ofList (Words.snake name) ∈
          ["email", "password", "id", "recovery_code", "recovery_expiration"])) ∧
    (∀ failure, parse spec = .error failure ↔
      ∃ fault, FirstFault text fault ∧ failure = .invalidAttribute spec fault.message) := by
  intro text name type
  refine ⟨?_, ?_, fun failure => parse_eq_error_iff⟩
  · simp only [parse_eq_ok_iff, ofText_eq_ok_iff]
    constructor
    · rintro ⟨a, hsingle, hname, htype, -⟩
      exact ⟨hsingle, hname, htype⟩
    · rintro ⟨hsingle, hname, htype⟩
      exact ⟨_, hsingle, hname, htype, rfl⟩
  · intro a ha
    obtain ⟨-, -, -, rfl⟩ := ofText_eq_ok_iff.mp (parse_eq_ok_iff.mp ha)
    refine ⟨rfl, rfl, ?_⟩
    rw [make, isReservedName_iff, normalize, String.toList_ofList]
    rfl

end Attribute

end Scaffold
