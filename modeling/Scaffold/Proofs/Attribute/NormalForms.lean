import Scaffold.Proofs.Attribute.Capitals
import Scaffold.Proofs.Attribute.Collection
import Scaffold.Proofs.Attribute.Grammar
/-!
# Normal forms of names

The words of a snake form are the words it was made of, so nothing changes when it is made again,
and the Pascal form can be made from it. Both forms are identifiers.
-/

namespace Scaffold.Words

open Text

/-! ## Words of lowercase words -/

theorem isAlphanumeric_of_isSmall {c : Char} (h : isSmall c = true) : isAlphanumeric c = true := by
  have hletters := isAlphanum_of_isSmall h
  rw [isAlphanumeric, if_pos (toNat_lt_of_isAlphanum hletters), hletters]

theorem isUppercase_of_isSmall {c : Char} (h : isSmall c = true) : isUppercase c = false := by
  rw [isUppercase, if_pos (toNat_lt_of_isAlphanum (isAlphanum_of_isSmall h)),
    (capital_of_isSmall h).1]

theorem cutRun_of_isSmall {casing : Casing} {word cs : List Char} (hne : cs ≠ [])
    (h : ∀ c ∈ cs, isSmall c = true) : cutRun casing word cs = [word ++ cs] := by
  fun_induction cutRun casing word cs with
  | case1 => exact absurd rfl hne
  | case2 => rfl
  | case3 casing word c d rest hcut ih =>
      rw [isUppercase_of_isSmall (h d (by simp))] at hcut
      exact absurd hcut.2 Bool.false_ne_true
  | case4 casing word c d rest _ hcut ih =>
      rw [isUppercase_of_isSmall (h c List.mem_cons_self)] at hcut
      exact absurd hcut.2.1 Bool.false_ne_true
  | case5 casing word c d rest _ _ ih =>
      rw [ih (List.cons_ne_nil _ _) (List.forall_mem_cons.mp h).2, List.append_assoc,
        List.singleton_append]

theorem lowerWord_of_isSmall {word : List Char} (h : ∀ c ∈ word, isSmall c = true) :
    lowerWord word = word := by
  rw [lowerWord_eq_map fun c hc => isAlphanum_of_isSmall (h c hc), map_toLower_of_isSmall h]

section Pieces

variable {pieces : List (List Char)} (h : ∀ word ∈ pieces, IsSmallWord word)

include h

theorem lowerWords_eq_self : pieces.map lowerWord = pieces := by
  have hsame : pieces.map lowerWord = pieces.map id :=
    List.map_congr_left fun word hword => lowerWord_of_isSmall (h word hword).isSmall
  rw [hsame, List.map_id]

theorem flatMap_cutRun : pieces.flatMap (cutRun .unknown []) = pieces := by
  induction pieces with
  | nil => rfl
  | cons word pieces ih =>
      obtain ⟨hword, hpieces⟩ := List.forall_mem_cons.mp h
      rw [List.flatMap_cons, cutRun_of_isSmall hword.ne_nil hword.isSmall, ih hpieces]
      rfl

/-- Lowercase words joined by underscores are cut at the underscores and nowhere else. -/
theorem words_joinWith (hne : pieces ≠ []) : words (joinWith ['_'] pieces) = pieces := by
  have hseparator : ∀ c ∈ joinWith ['_'] pieces, (!isAlphanumeric c) = decide (c = '_') := by
    intro c hc
    rcases mem_of_mem_joinWith hc with hc | ⟨word, hword, hc⟩
    · obtain rfl := List.mem_singleton.mp hc
      decide
    · have hsmall := (h word hword).isSmall c hc
      rw [isAlphanumeric_of_isSmall hsmall, decide_eq_false (capital_of_isSmall hsmall).2.1]
      rfl
  have hfree : ∀ word ∈ pieces, '_' ∉ word := fun word hword hmem =>
    absurd ((h word hword).isSmall _ hmem) (by decide)
  rw [words, fieldsBy_congr hseparator]
  change (fields '_' (joinWith ['_'] pieces)).flatMap _ = _
  rw [fields_joinWith hne hfree, flatMap_cutRun h]

end Pieces

section Name

variable {name : List Char} (h : Attribute.nameFault? name = none)

include h

/-- The snake form of a name falls into the words it was made of. -/
theorem words_snake : words (snake name) = lowerWords name :=
  words_joinWith (isSmallWord_of_mem_lowerWords h) (lowerWords_ne_nil h)

theorem snake_snake : snake (snake name) = snake name := by
  rw [snake, words_snake h, lowerWords_eq_self (isSmallWord_of_mem_lowerWords h)]
  rfl

theorem pascal_snake : pascal (snake name) = pascal name := by
  rw [pascal_eq_capitals h, pascal, words_snake h]
  rfl

end Name

end Scaffold.Words

namespace Scaffold

namespace Attribute

open Words

/-! ## Identifiers -/

def IsSmallPart (c : Char) : Prop :=
  'a' ≤ c ∧ c ≤ 'z' ∨ '0' ≤ c ∧ c ≤ '9'

/-- A text that matches `[A-Z][A-Za-z0-9]*`. -/
def MatchesField (text : List Char) : Prop :=
  ∃ first rest, text = first :: rest ∧ ('A' ≤ first ∧ first ≤ 'Z') ∧
    ∀ c ∈ rest, IsLetter c ∨ '0' ≤ c ∧ c ≤ '9'

/-- A text that matches `[a-z][a-z0-9]*(_[a-z0-9]+)*`. -/
def MatchesColumn (text : List Char) : Prop :=
  ∃ first rest, ∃ pieces : List (List Char),
    text = first :: rest ++ pieces.flatMap ('_' :: ·) ∧
    ('a' ≤ first ∧ first ≤ 'z') ∧ (∀ c ∈ rest, IsSmallPart c) ∧
    ∀ piece ∈ pieces, piece ≠ [] ∧ ∀ c ∈ piece, IsSmallPart c

theorem isUpper_iff {c : Char} : 'A' ≤ c ∧ c ≤ 'Z' ↔ c.isUpper = true := by
  unfold Char.isUpper
  simp only [decide_eq_true_eq, Char.le_def, ge_iff_le]

theorem isLower_iff {c : Char} : 'a' ≤ c ∧ c ≤ 'z' ↔ c.isLower = true := by
  unfold Char.isLower
  simp only [Bool.and_eq_true, decide_eq_true_eq, Char.le_def, ge_iff_le]

theorem isDigit_iff {c : Char} : '0' ≤ c ∧ c ≤ '9' ↔ c.isDigit = true := by
  unfold Char.isDigit
  simp only [Bool.and_eq_true, decide_eq_true_eq, Char.le_def, ge_iff_le]

theorem isSmallPart_iff {c : Char} : IsSmallPart c ↔ isSmall c = true := by
  rw [IsSmallPart, isLower_iff, isDigit_iff, isSmall, Bool.or_eq_true]

theorem isAlphanum_iff {c : Char} : IsLetter c ∨ '0' ≤ c ∧ c ≤ '9' ↔ c.isAlphanum = true := by
  rw [isLetter_iff, isDigit_iff, Char.isAlphanum, Bool.or_eq_true]

theorem isUpper_toUpper {c : Char} (h : c.isLower = true) : c.toUpper.isUpper = true := by
  obtain ⟨-, -, hcapital⟩ := capital_of_isSmall (isSmall_of_isLower h)
  rw [isDigit_of_isLower h, if_neg Bool.false_ne_true] at hcapital
  exact hcapital.1

theorem toList_normalized (a : Attribute) : a.normalized.toList = snake a.name.toList := by
  rw [normalized, normalize, String.toList_ofList]

section

variable {a : Attribute} (h : a.Readable)

include h

theorem Readable.matchesField_displayName : MatchesField a.displayName.toList := by
  obtain ⟨c, rest, more, hwords, hc⟩ := exists_lowerWords_eq_cons h.name_ok
  have hword : IsSmallWord (c :: rest) :=
    isSmallWord_of_mem_lowerWords h.name_ok _ (by rw [hwords]; exact List.mem_cons_self)
  have hname : a.displayName.toList = c.toUpper :: (rest ++ capitals more) := by
    rw [displayName, String.toList_ofList, pascal_eq_capitals h.name_ok, hwords,
      capitals_cons more hword]
  have hletters := h.isAlphanum_of_mem_displayName
  rw [hname] at hletters ⊢
  refine ⟨_, _, rfl, isUpper_iff.mpr (isUpper_toUpper hc), fun d hd => ?_⟩
  exact isAlphanum_iff.mpr (hletters d (List.mem_cons_of_mem _ hd))

theorem Readable.matchesColumn_normalized : MatchesColumn a.normalized.toList := by
  obtain ⟨c, rest, more, hwords, hc⟩ := exists_lowerWords_eq_cons h.name_ok
  have hsmall := isSmallWord_of_mem_lowerWords h.name_ok
  rw [hwords] at hsmall
  obtain ⟨hword, hmore⟩ := List.forall_mem_cons.mp hsmall
  have hrest := (List.forall_mem_cons.mp hword.isSmall).2
  have hname : a.normalized.toList = c :: rest ++ more.flatMap ('_' :: ·) := by
    rw [toList_normalized, ← joinWith_underscore, ← hwords]
    rfl
  refine ⟨c, rest, more, hname, isLower_iff.mpr hc, fun d hd => isSmallPart_iff.mpr (hrest d hd),
    fun piece hpiece => ⟨(hmore piece hpiece).ne_nil, fun d hd => ?_⟩⟩
  exact isSmallPart_iff.mpr ((hmore piece hpiece).isSmall d hd)

theorem Readable.snake_normalized : snake a.normalized.toList = a.normalized.toList := by
  rw [toList_normalized, snake_snake h.name_ok]

theorem Readable.pascal_normalized : pascal a.normalized.toList = a.displayName.toList := by
  rw [toList_normalized, pascal_snake h.name_ok, displayName, String.toList_ofList]

theorem Readable.normalize_normalized : normalize a.normalized = a.normalized := by
  rw [normalize, h.snake_normalized, String.ofList_toList]

theorem Readable.contains_normalized (set : AttributeSet) :
    set.contains a.normalized = set.contains a.name := by
  have hname : normalize a.name = a.normalized := rfl
  rw [Bool.eq_iff_iff, AttributeSet.contains_iff, AttributeSet.contains_iff,
    h.normalize_normalized, hname]

end

/-- The field of an attribute that was read is an identifier that begins with a capital, and its
column is made of lowercase words with underscores between them. The column is its own snake form,
so a set finds what it holds by the column too, and the field is the Pascal form of the column, so
attributes with the same column have the same field. -/
theorem names_have_normal_forms {spec : String} {a : Attribute} (h : parse spec = .ok a) :
    MatchesField a.displayName.toList ∧
    MatchesColumn a.normalized.toList ∧
    snake a.normalized.toList = a.normalized.toList ∧
    (∀ set : AttributeSet, set.contains a.normalized = set.contains a.name ∧
      (a ∈ set.toList → set.contains a.normalized = true)) ∧
    pascal a.normalized.toList = a.displayName.toList ∧
    ∀ other b, parse other = .ok b → a.normalized = b.normalized →
      a.displayName = b.displayName := by
  have hread := readable_of_parse h
  refine ⟨hread.matchesField_displayName, hread.matchesColumn_normalized, hread.snake_normalized,
    fun set => ⟨hread.contains_normalized set, fun ha => ?_⟩, hread.pascal_normalized, ?_⟩
  · rw [AttributeSet.contains_iff]
    exact .inr ⟨a, ha, hread.normalize_normalized.symm⟩
  · intro other b hother hsame
    rw [← String.toList_inj, ← hread.pascal_normalized, hsame,
      (readable_of_parse hother).pascal_normalized]

/-- Runs of capitals, digits and separators at the end; the column of the name read as a name. -/
theorem normal_forms_of_capitals :
    let a : Attribute := ⟨"XMLHttp-request__2Fa-", "string", false⟩
    let b : Attribute := ⟨"xml_http_request_2fa", "int", false⟩
    parse "XMLHttp-request__2Fa-" = .ok a ∧ parse "xml_http_request_2fa:int" = .ok b ∧
    a.normalized = "xml_http_request_2fa" ∧ a.displayName = "XmlHttpRequest2fa" ∧
    pascal a.normalized.toList = a.displayName.toList ∧
    (⟨[a]⟩ : AttributeSet).contains a.normalized = true ∧
    a.displayName = b.displayName := by
  intro a b
  have hread : parse "XMLHttp-request__2Fa-" = .ok a := by decide
  have hother : parse "xml_http_request_2fa:int" = .ok b := by decide
  have hsame : a.normalized = b.normalized := by decide
  obtain ⟨-, -, -, hset, hpascal, hdisplay⟩ := names_have_normal_forms hread
  exact ⟨hread, hother, by decide, by decide, hpascal,
    (hset ⟨[a]⟩).2 List.mem_cons_self, hdisplay _ b hother hsame⟩

end Attribute

end Scaffold
