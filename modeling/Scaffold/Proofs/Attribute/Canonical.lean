import Scaffold.Proofs.Attribute.Grammar
/-!
# Canonical specifications

What is written for an attribute that was read is read as that attribute again, so a specification
has one written form, which can be told from its name and its type alone.
-/

namespace Scaffold

open Text

namespace Attribute

/-- The canonical form of a specification: its name, a colon and its type, which is the default one
if it has none, without the blanks around them. -/
def canonical (spec : String) : String :=
  let text := trim spec.toList
  let type := if ':' ∈ text then String.ofList (typeOf text) else defaultType
  String.ofList (nameOf text) ++ ":" ++ type

section

variable {spec : String} {a : Attribute}

theorem toText_of_parse (h : parse spec = .ok a) : a.toText = canonical spec := by
  obtain ⟨-, -, -, rfl⟩ := ofText_eq_ok_iff.mp (parse_eq_ok_iff.mp h)
  rfl

theorem parse_canonical (h : parse spec = .ok a) : parse (canonical spec) = .ok a := by
  rw [← toText_of_parse h]
  exact parse_toText (readable_of_parse h)

theorem canonical_canonical (h : parse spec = .ok a) :
    canonical (canonical spec) = canonical spec := by
  rw [← toText_of_parse (parse_canonical h), toText_of_parse h]

end

theorem Readable.eq_of_toText_eq {a b : Attribute} (ha : a.Readable) (hb : b.Readable)
    (h : a.toText = b.toText) : a = b := by
  have hread := parse_toText ha
  rw [h, parse_toText hb] at hread
  exact (Except.ok.inj hread).symm

theorem Readable.toList_toText {a : Attribute} (h : a.Readable) :
    ∃ name type, a.toText.toList = name ++ ':' :: type ∧ MatchesName name ∧ type ≠ [] ∧
      ':' ∉ type ∧ trim type = type := by
  refine ⟨a.name.toList, a.typeTag.toList, ?_, matchesName_iff.mpr h.name_ok, h.type_ne_nil,
    h.colon_notMem_type, h.type_trimmed⟩
  simp [toText]

theorem exists_parse_of_parts {form : String} {name type : List Char}
    (hform : form.toList = name ++ ':' :: type) (hname : MatchesName name) (hne : type ≠ [])
    (hcolon : ':' ∉ type) (htrim : trim type = type) :
    ∃ a, parse form = .ok a ∧ a.toText = form := by
  let a := make (String.ofList name) (String.ofList type)
  have hread : a.Readable := by
    apply readable_make
    · simpa [a] using matchesName_iff.mp hname
    · simpa [a] using hne
    · simpa [a] using htrim
    · simpa [a] using hcolon
  have htext : a.toText = form := by
    rw [← String.toList_inj, hform]
    simp [a, make, toText]
  exact ⟨a, htext ▸ parse_toText hread, htext⟩

/-- A specification that is read has a canonical form, which is written for the attribute it is read
as, is read as that attribute again and is its own canonical form; two specifications are read as
the same attribute exactly if their canonical forms are equal. The texts that are their own
canonical form are those made of a name, one colon and a type without outer blanks. -/
theorem same_attribute_iff_same_form {spec other : String} {a b : Attribute}
    (ha : parse spec = .ok a) (hb : parse other = .ok b) :
    parse a.toText = .ok a ∧
    a.toText = canonical spec ∧
    canonical (canonical spec) = canonical spec ∧
    (a = b ↔ canonical spec = canonical other) ∧
    ∀ form : String, (∃ c, parse form = .ok c ∧ c.toText = form) ↔
      ∃ name type, form.toList = name ++ ':' :: type ∧ MatchesName name ∧ type ≠ [] ∧
        ':' ∉ type ∧ trim type = type := by
  refine ⟨parse_toText (readable_of_parse ha), toText_of_parse ha, canonical_canonical ha, ?_, ?_⟩
  · rw [← toText_of_parse ha, ← toText_of_parse hb]
    exact ⟨congrArg toText, (readable_of_parse ha).eq_of_toText_eq (readable_of_parse hb)⟩
  · intro form
    constructor
    · rintro ⟨c, hc, rfl⟩
      exact (readable_of_parse hc).toList_toText
    · rintro ⟨name, type, hform, hname, hne, hcolon, htrim⟩
      exact exists_parse_of_parts hform hname hne hcolon htrim

/-- Blanks of any kind around the name and the type do not count, those inside the type do. -/
theorem same_form_with_blanks :
    let spec := " Home-Page :\u3000na\u00EFve  type?\n"
    let other := "Home-Page\t:na\u00EFve  type?"
    let a : Attribute := ⟨"Home-Page", "na\u00EFve  type?", false⟩
    parse spec = .ok a ∧ parse other = .ok a ∧
    parse "Home-Page:na\u00EFve  type?" = .ok a ∧ canonical spec = canonical other := by
  intro spec other a
  have hspec : parse spec = .ok a := by decide
  have hother : parse other = .ok a := by decide
  obtain ⟨hagain, -, -, hsame, -⟩ := same_attribute_iff_same_form hspec hother
  exact ⟨hspec, hother, hagain, hsame.mp rfl⟩

end Attribute

end Scaffold
