import Scaffold.Attribute.Basic
import Scaffold.Proofs.Text.Fields
import Scaffold.Proofs.Text.Trimming
/-!
# Specifications of attributes

An attribute that was read has a name of letters, digits and a few signs, and a type without colons
or outer blanks, so writing it and reading it again gives it back.
-/

namespace Scaffold

open Text

namespace Attribute

/-! ## Names -/

theorem code_of_isAlphanum {c : Char} (h : c.isAlphanum = true) :
    48 ≤ c.toNat ∧ c.toNat ≤ 122 := by
  unfold Char.isAlphanum Char.isAlpha Char.isUpper Char.isLower Char.isDigit at h
  simp only [Bool.or_eq_true, Bool.and_eq_true, decide_eq_true_eq, ge_iff_le,
    UInt32.le_iff_toNat_le] at h
  have hvalue : c.toNat = c.val.toNat := rfl
  have hz : 'z'.val.toNat = 122 := rfl
  have hzero : '0'.val.toNat = 48 := rfl
  have hnine : '9'.val.toNat = 57 := rfl
  have ha : 'a'.val.toNat = 97 := rfl
  have hA : 'A'.val.toNat = 65 := rfl
  have hZ : 'Z'.val.toNat = 90 := rfl
  omega

theorem isBlank_of_isNameCharacter {c : Char} (h : isNameCharacter c = true) :
    isBlank c = false := by
  have hcode : 48 ≤ c.toNat ∧ c.toNat ≤ 122 ∨ c.toNat = 45 := by
    rw [isNameCharacter, Bool.or_eq_true, Bool.or_eq_true, decide_eq_true_eq, decide_eq_true_eq]
      at h
    rcases h with (h | rfl) | rfl
    · exact .inl (code_of_isAlphanum h)
    · exact .inl ⟨by decide, by decide⟩
    · exact .inr (by decide)
  rw [Bool.eq_false_iff]
  intro hblank
  simp only [isBlank, Bool.or_eq_true, Bool.and_eq_true, decide_eq_true_eq, beq_iff_eq] at hblank
  omega

theorem nameFault?_eq_none_iff {name : List Char} :
    nameFault? name = none ↔
      (∃ c, name.head? = some c ∧ c.isAlpha = true) ∧ ∀ c ∈ name, isNameCharacter c = true := by
  cases name with
  | nil => simp [nameFault?]
  | cons c cs =>
      rw [nameFault?]
      by_cases hc : c.isAlpha = true
      · simp [hc]
      · simp [hc]

theorem ne_nil_of_nameFault?_eq_none {name : List Char} (h : nameFault? name = none) :
    name ≠ [] := by
  rintro rfl
  cases h

theorem isBlank_of_mem_name {name : List Char} {c : Char} (h : nameFault? name = none)
    (hc : c ∈ name) : isBlank c = false :=
  isBlank_of_isNameCharacter ((nameFault?_eq_none_iff.mp h).2 c hc)

theorem isTrimmed_name {name : List Char} (h : nameFault? name = none) : IsTrimmed isBlank name :=
  isTrimmed_of_forall fun _ hc => isBlank_of_mem_name h hc

theorem trim_name {name : List Char} (h : nameFault? name = none) : trim name = name :=
  trimWhile_eq_self_iff.mpr (isTrimmed_name h)

/-! ## Attributes that were read -/

theorem isReservedName_iff {name : String} :
    isReservedName name = true ↔ normalize name ∈ reservedNames := by
  rw [isReservedName, List.contains_iff_mem]

/-- What every attribute that was read fulfils. -/
structure Readable (a : Attribute) : Prop where
  name_ok : nameFault? a.name.toList = none
  mark_eq : a.isReserved = isReservedName a.name
  type_ne_nil : a.typeTag.toList ≠ []
  type_trimmed : trim a.typeTag.toList = a.typeTag.toList
  colon_notMem_type : ':' ∉ a.typeTag.toList

theorem ofParts_eq_ok_iff {name : List Char} {type? : Option (List Char)} {a : Attribute} :
    ofParts name type? = .ok a ↔
      nameFault? name = none ∧ type? ≠ some [] ∧
        a = make (String.ofList name) ((type?.map String.ofList).getD defaultType) := by
  cases hname : nameFault? name with
  | some fault => simp [ofParts, hname]
  | none =>
      match type? with
      | none => simp [ofParts, hname, eq_comm]
      | some [] => simp [ofParts, hname]
      | some (c :: cs) => simp [ofParts, hname, eq_comm]

theorem readable_make {name typeTag : String} (hname : nameFault? name.toList = none)
    (hne : typeTag.toList ≠ []) (htrim : trim typeTag.toList = typeTag.toList)
    (hcolon : ':' ∉ typeTag.toList) : (make name typeTag).Readable :=
  ⟨hname, rfl, hne, htrim, hcolon⟩

theorem readable_of_ofParts {name : List Char} {type? : Option (List Char)} {a : Attribute}
    (htype : ∀ tag, type? = some tag → trim tag = tag ∧ ':' ∉ tag)
    (h : ofParts name type? = .ok a) : a.Readable := by
  obtain ⟨hname, hne, rfl⟩ := ofParts_eq_ok_iff.mp h
  have hname' : nameFault? (String.ofList name).toList = none := by simpa using hname
  cases type? with
  | none => exact readable_make hname' (by decide) (by decide) (by decide)
  | some tag =>
      obtain ⟨htrim, hcolon⟩ := htype tag rfl
      apply readable_make hname'
      · simpa using hne
      · simpa using htrim
      · simpa using hcolon

theorem parse_eq_ok_iff {spec : String} {a : Attribute} :
    parse spec = .ok a ↔ ofText (trim spec.toList) = .ok a := by
  rw [parse]
  cases ofText (trim spec.toList) <;> simp

theorem readable_of_parse {spec : String} {a : Attribute} (h : parse spec = .ok a) :
    a.Readable := by
  rw [parse_eq_ok_iff, ofText] at h
  split at h
  · cases h
  · split at h
    · exact readable_of_ofParts (by simp) h
    · next name tag hfields =>
        refine readable_of_ofParts ?_ h
        intro given hgiven
        obtain rfl := Option.some.inj hgiven
        have htag : ':' ∉ tag := separator_notMem_of_mem_fields (by rw [hfields]; simp)
        exact ⟨trim_trim tag, fun hmem => htag (mem_of_mem_trim hmem)⟩
    · cases h

theorem parse_toText {a : Attribute} (h : a.Readable) : parse a.toText = .ok a := by
  have hname := ne_nil_of_nameFault?_eq_none h.name_ok
  have htext : a.toText.toList = a.name.toList ++ ':' :: a.typeTag.toList := by
    simp [toText]
  have hne : a.toText.toList ≠ [] := by simp [htext]
  -- the text begins as the name does and ends as the type does
  have htrim : trim a.toText.toList = a.toText.toList := by
    have htype : IsTrimmed isBlank a.typeTag.toList := trimWhile_eq_self_iff.mp h.type_trimmed
    rw [htext, List.append_cons]
    exact trimWhile_eq_self_iff.mpr
      ((isTrimmed_name h.name_ok).enclose htype hname h.type_ne_nil [':'])
  have hcolon : ':' ∉ a.name.toList := fun hmem =>
    absurd ((nameFault?_eq_none_iff.mp h.name_ok).2 _ hmem) (by decide)
  have hfields : fields ':' a.toText.toList = [a.name.toList, a.typeTag.toList] := by
    rw [htext, fields_append_separator, fields_of_notMem hcolon,
      fields_of_notMem h.colon_notMem_type]
    rfl
  have hempty : a.toText.toList.isEmpty = false := by simpa using hne
  rw [parse_eq_ok_iff, htrim, ofText, hempty, if_neg Bool.false_ne_true, hfields]
  dsimp only
  rw [trim_name h.name_ok, h.type_trimmed]
  refine ofParts_eq_ok_iff.mpr ⟨h.name_ok, by simpa using h.type_ne_nil, ?_⟩
  rw [Option.map_some, Option.getD_some, String.ofList_toList, String.ofList_toList, make,
    ← h.mark_eq]

end Attribute

end Scaffold
