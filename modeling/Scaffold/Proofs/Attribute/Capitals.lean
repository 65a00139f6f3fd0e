import Scaffold.Proofs.Attribute.Words
/-!
# The Pascal form of a name

The Pascal form of a name beside its snake form. Where a word begins with a digit the Pascal form
has no capital to show it, so the underscore in front of that word is lost, and nothing else is.
-/

namespace Scaffold.Words

open Text

def startsWithDigit (cs : List Char) : Bool :=
  cs.head?.any Char.isDigit

def closeUp : List Char → List Char
  | [] => []
  | c :: cs => if c = '_' ∧ startsWithDigit cs = true then closeUp cs else c :: closeUp cs

/-- A text in which every capital is written as an underscore and the small letter. -/
def spread (cs : List Char) : List Char :=
  cs.flatMap fun c => if c.isUpper then ['_', c.toLower] else [c]

/-- A text in which every underscore and the character after it are written as a capital. -/
def camel : List Char → List Char
  | [] => []
  | [c] => [c]
  | c :: d :: cs => if c = '_' then d.toUpper :: camel cs else c :: camel (d :: cs)

/-- A word behind an underscore, unless a digit begins it. -/
def marked (word : List Char) : List Char :=
  if startsWithDigit word then word else '_' :: word

/-! ## Letters and digits -/

theorem capital_of_isSmall {c : Char} (h : isSmall c = true) :
    c.isUpper = false ∧ c ≠ '_' ∧
      if c.isDigit then c.toUpper = c
      else c.toUpper.isUpper = true ∧ c.toUpper.toLower = c := by
  have hcode := toNat_lt_of_isAlphanum (isAlphanum_of_isSmall h)
  rw [← Char.ofNat_toNat c] at h ⊢
  generalize c.toNat = n at hcode h ⊢
  revert n
  decide +kernel

theorem isDigit_of_isLower {c : Char} (h : c.isLower = true) : c.isDigit = false := by
  have hsmall := isSmall_of_isLower h
  obtain ⟨-, -, hcapital⟩ := capital_of_isSmall hsmall
  cases hdigit : c.isDigit with
  | false => rfl
  | true =>
      rw [hdigit, if_pos rfl] at hcapital
      rw [← isSmall_toUpper h, hcapital, hsmall]

section Small

variable {word : List Char} (h : ∀ c ∈ word, isSmall c = true)

include h

theorem spread_of_isSmall : spread word = word := by
  induction word with
  | nil => rfl
  | cons c word ih =>
      obtain ⟨hc, hword⟩ := List.forall_mem_cons.mp h
      rw [spread, List.flatMap_cons, (capital_of_isSmall hc).1, if_neg Bool.false_ne_true]
      exact congrArg (c :: ·) (ih hword)

theorem closeUp_append (more : List Char) : closeUp (word ++ more) = word ++ closeUp more := by
  induction word with
  | nil => rfl
  | cons c word ih =>
      obtain ⟨hc, hword⟩ := List.forall_mem_cons.mp h
      rw [List.cons_append, closeUp, if_neg fun hmark => (capital_of_isSmall hc).2.1 hmark.1,
        ih hword, List.cons_append]

theorem camel_append (more : List Char) : camel (word ++ more) = word ++ camel more := by
  induction word with
  | nil => rfl
  | cons c word ih =>
      obtain ⟨hc, hword⟩ := List.forall_mem_cons.mp h
      have hrest := ih hword
      rw [List.cons_append]
      cases hnext : word ++ more with
      | nil =>
          rw [hnext] at hrest
          rw [camel, List.cons_append, ← hrest, camel]
      | cons d cs =>
          rw [camel, if_neg (capital_of_isSmall hc).2.1, ← hnext, hrest, List.cons_append]

end Small

/-! ## Words -/

section Word

variable {word : List Char} (h : IsSmallWord word)

include h

theorem spread_capitalWord : spread (capitalWord word) = marked word := by
  obtain ⟨c, rest, rfl⟩ := List.exists_cons_of_ne_nil h.ne_nil
  obtain ⟨hc, hrest⟩ := List.forall_mem_cons.mp h.isSmall
  obtain ⟨hplain, -, hcapital⟩ := capital_of_isSmall hc
  have hfirst : marked (c :: rest) = if c.isDigit then c :: rest else '_' :: c :: rest := rfl
  rw [h.capitalWord_cons, hfirst, spread, List.flatMap_cons]
  change _ ++ spread rest = _
  rw [spread_of_isSmall hrest]
  cases hdigit : c.isDigit with
  | true =>
      rw [hdigit, if_pos rfl] at hcapital
      rw [hcapital, hplain]
      rfl
  | false =>
      rw [hdigit, if_neg Bool.false_ne_true] at hcapital
      rw [hcapital.1, hcapital.2]
      rfl

theorem closeUp_underscore_append (more : List Char) :
    closeUp ('_' :: (word ++ more)) = marked word ++ closeUp more := by
  have hfirst : startsWithDigit (word ++ more) = startsWithDigit word := by
    obtain ⟨c, rest, rfl⟩ := List.exists_cons_of_ne_nil h.ne_nil
    rfl
  rw [closeUp, hfirst, closeUp_append h.isSmall, marked]
  cases startsWithDigit word <;> rfl

theorem camel_marked_append (more : List Char) :
    camel (marked word ++ more) = capitalWord word ++ camel more := by
  obtain ⟨c, rest, rfl⟩ := List.exists_cons_of_ne_nil h.ne_nil
  obtain ⟨hc, hrest⟩ := List.forall_mem_cons.mp h.isSmall
  obtain ⟨-, -, hcapital⟩ := capital_of_isSmall hc
  have hfirst : marked (c :: rest) = if c.isDigit then c :: rest else '_' :: c :: rest := rfl
  rw [h.capitalWord_cons, hfirst]
  cases hdigit : c.isDigit with
  | true =>
      rw [hdigit, if_pos rfl] at hcapital
      rw [hcapital, if_pos rfl, camel_append h.isSmall]
  | false =>
      rw [if_neg Bool.false_ne_true, List.cons_append, List.cons_append, camel, if_pos rfl,
        camel_append hrest, List.cons_append]

end Word

section Pieces

variable {pieces : List (List Char)} (h : ∀ word ∈ pieces, IsSmallWord word)

include h

theorem spread_capitals : spread (capitals pieces) = pieces.flatMap marked := by
  rw [spread, capitals, ← List.flatMap_def, List.flatMap_assoc]
  exact List.flatMap_congr fun word hword => spread_capitalWord (h word hword)

theorem closeUp_flatMap : closeUp (pieces.flatMap ('_' :: ·)) = pieces.flatMap marked := by
  induction pieces with
  | nil => rfl
  | cons word pieces ih =>
      obtain ⟨hword, hpieces⟩ := List.forall_mem_cons.mp h
      rw [List.flatMap_cons, List.flatMap_cons, List.cons_append, closeUp_underscore_append hword,
        ih hpieces]

theorem camel_flatMap_marked : camel (pieces.flatMap marked) = capitals pieces := by
  induction pieces with
  | nil => rfl
  | cons word pieces ih =>
      obtain ⟨hword, hpieces⟩ := List.forall_mem_cons.mp h
      rw [List.flatMap_cons, camel_marked_append hword, ih hpieces]
      rfl

end Pieces

theorem joinWith_underscore (word : List Char) (pieces : List (List Char)) :
    joinWith ['_'] (word :: pieces) = word ++ pieces.flatMap ('_' :: ·) := by
  induction pieces generalizing word with
  | nil => simp [joinWith]
  | cons next pieces ih =>
      rw [joinWith, ih, List.flatMap_cons]
      · simp
      · exact List.cons_ne_nil _ _

end Scaffold.Words

namespace Scaffold.Attribute

open Words

section

variable {a : Attribute} (h : a.Readable)

include h

theorem Readable.flatMap_marked :
    (lowerWords a.name.toList).flatMap marked = '_' :: closeUp a.normalized.toList := by
  have hsmall := isSmallWord_of_mem_lowerWords h.name_ok
  obtain ⟨c, rest, more, hwords, hc⟩ := exists_lowerWords_eq_cons h.name_ok
  have hnormalized : a.normalized.toList = (c :: rest) ++ more.flatMap ('_' :: ·) := by
    rw [normalized, normalize, String.toList_ofList]
    change Text.joinWith ['_'] (lowerWords a.name.toList) = _
    rw [hwords, joinWith_underscore]
  have hletter : startsWithDigit a.normalized.toList = false := by
    rw [hnormalized]
    exact isDigit_of_isLower hc
  rw [← closeUp_flatMap hsmall, hwords, List.flatMap_cons, List.cons_append, ← hnormalized, closeUp,
    hletter, if_neg (fun hmark => Bool.false_ne_true hmark.2)]

/-- The field of an attribute can be told from its column, as far as underscores in front of digits
do not count. -/
theorem Readable.displayName_eq :
    a.displayName.toList = camel ('_' :: closeUp a.normalized.toList) := by
  have hsmall := isSmallWord_of_mem_lowerWords h.name_ok
  rw [← h.flatMap_marked, camel_flatMap_marked hsmall, displayName, String.toList_ofList,
    pascal_eq_capitals h.name_ok]

/-- The column of an attribute can be told from its field, but for underscores before digits. -/
theorem Readable.spread_displayName :
    spread a.displayName.toList = '_' :: closeUp a.normalized.toList := by
  have hsmall := isSmallWord_of_mem_lowerWords h.name_ok
  rw [← h.flatMap_marked, ← spread_capitals hsmall, displayName, String.toList_ofList,
    pascal_eq_capitals h.name_ok]

end

theorem displayName_eq_iff_closeUp_eq {a b : Attribute} (ha : a.Readable) (hb : b.Readable) :
    a.displayName = b.displayName ↔
      closeUp a.normalized.toList = closeUp b.normalized.toList := by
  constructor
  · intro h
    have hspread : '_' :: closeUp a.normalized.toList = '_' :: closeUp b.normalized.toList := by
      rw [← ha.spread_displayName, ← hb.spread_displayName, h]
    exact (List.cons.inj hspread).2
  · intro h
    rw [← String.toList_inj, ha.displayName_eq, hb.displayName_eq, h]

end Scaffold.Attribute
