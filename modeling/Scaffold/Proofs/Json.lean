import Mathlib.Data.List.Forall2
import Scaffold.Json
import Scaffold.Template.Token
/-!
# JSON texts

What a JSON text says. The grammar of JSON relates a document to the texts that stand for it, with
any blanks between their tokens; a printed document is such a text, and no text begins with two
documents. Numbers are left out, since no document that is printed has one.
-/

namespace Scaffold.Json

/-! ## The grammar -/

def isBlank (c : Char) : Bool :=
  c = ' ' || c = '\t' || c = '\n' || c = '\r'

def skip (cs : List Char) : List Char :=
  cs.dropWhile isBlank

/-- The letters that stand for characters after a backslash. -/
def letters : List (Char × Char) :=
  [('"', '"'), ('\\', '\\'), ('/', '/'), ('b', '\x08'), ('f', '\x0c'), ('n', '\n'), ('r', '\r'),
    ('t', '\t')]

def codeUnit? : List Char → Option Nat
  | [a, b, c, d] => Template.Lexer.hex4? a b c d
  | _ => none

inductive SpellsChar : Char → List Char → Prop where
  | plain {c : Char} (hcontrol : 0x20 ≤ c.toNat) (hmark : c ≠ '"') (hbackslash : c ≠ '\\') :
      SpellsChar c [c]
  | letter {c l : Char} (h : letters.lookup l = some c) : SpellsChar c ['\\', l]
  | unit {c : Char} {digits : List Char} (h : codeUnit? digits = some c.toNat) :
      SpellsChar c ('\\' :: 'u' :: digits)
  /-- By two numbers, neither of which is that of a character. -/
  | pair {c : Char} {digits digits' : List Char} {high low : Nat}
      (hhigh : codeUnit? digits = some high) (hlow : codeUnit? digits' = some low)
      (hhighRange : 0xD800 ≤ high ∧ high ≤ 0xDBFF) (hlowRange : 0xDC00 ≤ low ∧ low ≤ 0xDFFF)
      (hc : c.toNat = 0x10000 + (high - 0xD800) * 0x400 + (low - 0xDC00)) :
      SpellsChar c ('\\' :: 'u' :: (digits ++ '\\' :: 'u' :: digits'))

/-- How something can be written: at the beginning of a text, before a rest of it. -/
abbrev Spelling : Type := List Char → List Char → Prop

def SpellsChars : List Char → Spelling
  | [], cs, rest => cs = '"' :: rest
  | c :: s, cs, rest => ∃ code cs', SpellsChar c code ∧ cs = code ++ cs' ∧ SpellsChars s cs' rest

def SpellsString (s : String) : Spelling := fun cs rest =>
  ∃ cs', cs = '"' :: cs' ∧ SpellsChars s.toList cs' rest

def SpellsMore (right : Char) : List Spelling → Spelling
  | [], cs, rest => skip cs = right :: rest
  | part :: parts, cs, rest =>
    ∃ cs' cs'', skip cs = ',' :: cs' ∧ part (skip cs') cs'' ∧ SpellsMore right parts cs'' rest

def SpellsParts (left right : Char) : List Spelling → Spelling
  | [], cs, rest => ∃ cs', cs = left :: cs' ∧ skip cs' = right :: rest
  | part :: parts, cs, rest =>
    ∃ cs' cs'', cs = left :: cs' ∧ part (skip cs') cs'' ∧ SpellsMore right parts cs'' rest

def SpellsField (name : String) (document : Spelling) : Spelling := fun cs rest =>
  ∃ cs' cs'', SpellsString name cs cs' ∧ skip cs' = ':' :: cs'' ∧ document (skip cs'') rest

mutual

/-- How a document can be written. -/
def Spells : Json → Spelling
  | null => fun cs rest => cs = "null".toList ++ rest
  | bool b => fun cs rest => cs = (if b then "true" else "false").toList ++ rest
  | text s => SpellsString s
  | array items => SpellsParts '[' ']' (spellings items)
  | object fields => SpellsParts '\x7b' '\x7d' (fieldSpellings fields)

def spellings : List Json → List Spelling
  | [] => []
  | item :: items => Spells item :: spellings items

def fieldSpellings : List (String × Json) → List Spelling
  | [] => []
  | (name, v) :: fields => SpellsField name (Spells v) :: fieldSpellings fields

end

/-- A text that is one document and a line feed, and cannot be read in another way. -/
def IsDocumentLine (text : String) (document : Json) : Prop :=
  Spells document (skip text.toList) ['\n'] ∧
    ∀ other rest, Spells other (skip text.toList) rest → other = document ∧ rest = ['\n']

theorem spellings_eq_map (items : List Json) : spellings items = items.map Spells := by
  induction items with
  | nil => rfl
  | cons item items ih => rw [spellings, ih, List.map_cons]

theorem fieldSpellings_eq_map (fields : List (String × Json)) :
    fieldSpellings fields = fields.map fun field => SpellsField field.1 (Spells field.2) := by
  induction fields with
  | nil => rfl
  | cons field fields ih => rw [fieldSpellings, ih, List.map_cons]

theorem printItems_eq_map (level : Nat) (items : List Json) :
    printItems level items = items.map (print level) := by
  induction items with
  | nil => rfl
  | cons item items ih => rw [printItems, ih, List.map_cons]

theorem printFields_eq_map (level : Nat) (fields : List (String × Json)) :
    printFields level fields =
      fields.map fun field => quote field.1 ++ ": " ++ print level field.2 := by
  induction fields with
  | nil => rfl
  | cons field fields ih => rw [printFields, ih, List.map_cons]

/-- What holds of a document if it holds of its items or of the documents of its fields holds of
every document. -/
@[elab_as_elim]
theorem induct {motive : Json → Prop} (null : motive .null) (bool : ∀ b, motive (.bool b))
    (text : ∀ s, motive (.text s))
    (array : ∀ items, (∀ item ∈ items, motive item) → motive (.array items))
    (object : ∀ fields, (∀ field ∈ fields, motive field.2) → motive (.object fields))
    (document : Json) : motive document :=
  @Json.rec motive (fun items => ∀ item ∈ items, motive item)
    (fun fields => ∀ field ∈ fields, motive field.2) (fun field => motive field.2)
    null bool text array object
    (List.forall_mem_nil _) (fun _ _ hitem hitems => List.forall_mem_cons.mpr ⟨hitem, hitems⟩)
    (List.forall_mem_nil _) (fun _ _ hfield hfields => List.forall_mem_cons.mpr ⟨hfield, hfields⟩)
    (fun _ _ h => h) document

/-! ## First characters -/

def opening : Json → Char
  | null => 'n'
  | bool b => if b then 't' else 'f'
  | text _ => '"'
  | array _ => '['
  | object _ => '\x7b'

theorem exists_eq_cons_of_spellsParts {left right : Char} {parts : List Spelling}
    {cs rest : List Char} (h : SpellsParts left right parts cs rest) : ∃ cs', cs = left :: cs' := by
  cases parts with
  | nil =>
      obtain ⟨cs', hcs, -⟩ := h
      exact ⟨cs', hcs⟩
  | cons part parts =>
      obtain ⟨cs', -, hcs, -⟩ := h
      exact ⟨cs', hcs⟩

theorem exists_eq_opening_cons {document : Json} {cs rest : List Char}
    (h : Spells document cs rest) : ∃ cs', cs = document.opening :: cs' := by
  cases document with
  | null => exact ⟨_, h⟩
  | bool b => cases b <;> exact ⟨_, h⟩
  | text s =>
      obtain ⟨cs', hcs, -⟩ := h
      exact ⟨cs', hcs⟩
  | array items => exact exists_eq_cons_of_spellsParts h
  | object fields => exact exists_eq_cons_of_spellsParts h

theorem skip_cons {c : Char} (h : isBlank c = false) (cs : List Char) : skip (c :: cs) = c :: cs :=
  List.dropWhile_cons_of_neg (by simp [h])

theorem skip_append {blanks : List Char} (h : ∀ c ∈ blanks, isBlank c = true) (cs : List Char) :
    skip (blanks ++ cs) = skip cs :=
  List.dropWhile_append_of_pos h

theorem isBlank_opening (document : Json) : isBlank document.opening = false := by
  cases document with
  | bool b => cases b <;> rfl
  | _ => rfl

/-! ## Readings -/

theorem length_of_codeUnit? {digits : List Char} {unit : Nat} (h : codeUnit? digits = some unit) :
    digits.length = 4 := by
  unfold codeUnit? at h
  split at h
  · rfl
  · cases h

/-- No character has the number of a surrogate. -/
theorem toNat_lt_or_lt (c : Char) : c.toNat < 0xD800 ∨ 0xDFFF < c.toNat := by
  rcases c.valid with h | ⟨h, -⟩
  · exact .inl h
  · exact .inr h

theorem codeUnit?_append_inj {digits digits' cs ds : List Char} {unit unit' : Nat}
    (h : codeUnit? digits = some unit) (h' : codeUnit? digits' = some unit')
    (heq : digits ++ cs = digits' ++ ds) : unit = unit' ∧ cs = ds := by
  have hlength : digits.length = digits'.length := by
    rw [length_of_codeUnit? h, length_of_codeUnit? h']
  obtain ⟨rfl, rfl⟩ := List.append_inj heq hlength
  exact ⟨Option.some.inj (h.symm.trans h'), rfl⟩

theorem SpellsChar.eq_of_append_eq {c d : Char} {code code' cs ds : List Char}
    (hc : SpellsChar c code) (hd : SpellsChar d code') (h : code ++ cs = code' ++ ds) :
    c = d ∧ cs = ds := by
  cases hc with
  | plain _ _ hbackslash =>
      cases hd with
      | plain => exact List.cons.inj h
      | _ => exact absurd (List.cons.inj h).1 hbackslash
  | letter hl =>
      cases hd with
      | plain _ _ hbackslash => exact absurd (List.cons.inj h).1.symm hbackslash
      | letter hl' =>
          obtain ⟨rfl, rfl⟩ := List.cons.inj (List.cons.inj h).2
          exact ⟨Option.some.inj (hl.symm.trans hl'), rfl⟩
      | _ =>
          obtain ⟨rfl, -⟩ := List.cons.inj (List.cons.inj h).2
          cases hl
  | unit hunit =>
      cases hd with
      | plain _ _ hbackslash => exact absurd (List.cons.inj h).1.symm hbackslash
      | letter hl' =>
          obtain ⟨rfl, -⟩ := List.cons.inj (List.cons.inj h).2
          cases hl'
      | unit hunit' =>
          simp only [List.cons_append, List.cons.injEq, true_and] at h
          obtain ⟨heq, rfl⟩ := codeUnit?_append_inj hunit hunit' h
          exact ⟨Char.toNat_inj.mp heq, rfl⟩
      | pair hhigh _ hrange =>
          simp only [List.cons_append, List.append_assoc, List.cons.injEq, true_and] at h
          obtain ⟨rfl, -⟩ := codeUnit?_append_inj hunit hhigh h
          have := toNat_lt_or_lt c
          omega
  | pair hhigh hlow hrange _ hc =>
      cases hd with
      | plain _ _ hbackslash => exact absurd (List.cons.inj h).1.symm hbackslash
      | letter hl' =>
          obtain ⟨rfl, -⟩ := List.cons.inj (List.cons.inj h).2
          cases hl'
      | unit hunit' =>
          simp only [List.cons_append, List.append_assoc, List.cons.injEq, true_and] at h
          obtain ⟨rfl, -⟩ := codeUnit?_append_inj hhigh hunit' h
          have := toNat_lt_or_lt d
          omega
      | pair hhigh' hlow' _ _ hd =>
          simp only [List.cons_append, List.append_assoc, List.cons.injEq, true_and] at h
          obtain ⟨rfl, hrest⟩ := codeUnit?_append_inj hhigh hhigh' h
          simp only [List.cons.injEq, true_and] at hrest
          obtain ⟨rfl, rfl⟩ := codeUnit?_append_inj hlow hlow' hrest
          exact ⟨Char.toNat_inj.mp (hc.trans hd.symm), rfl⟩

theorem SpellsChar.ne_mark {c : Char} {code cs rest : List Char} (h : SpellsChar c code) :
    code ++ cs ≠ '"' :: rest := by
  intro heq
  cases h with
  | plain _ hmark => exact hmark (List.cons.inj heq).1
  | _ => cases (List.cons.inj heq).1

theorem spellsChars_unique {s t cs r r' : List Char} (hs : SpellsChars s cs r)
    (ht : SpellsChars t cs r') : s = t ∧ r = r' := by
  induction s generalizing t cs with
  | nil =>
      cases t with
      | nil => exact ⟨rfl, (List.cons.inj (hs.symm.trans ht)).2⟩
      | cons d t =>
          obtain ⟨code, cs', hd, rfl, -⟩ := ht
          exact absurd hs hd.ne_mark
  | cons c s ih =>
      obtain ⟨code, cs', hc, rfl, hs⟩ := hs
      cases t with
      | nil => exact absurd ht hc.ne_mark
      | cons d t =>
          obtain ⟨code', ds', hd, heq, ht⟩ := ht
          obtain ⟨rfl, rfl⟩ := hc.eq_of_append_eq hd heq
          obtain ⟨rfl, rfl⟩ := ih hs ht
          exact ⟨rfl, rfl⟩

theorem spellsString_unique {s t : String} {cs r r' : List Char} (hs : SpellsString s cs r)
    (ht : SpellsString t cs r') : s = t ∧ r = r' := by
  obtain ⟨cs', rfl, hs⟩ := hs
  obtain ⟨cs'', hcs, ht⟩ := ht
  obtain rfl := (List.cons.inj hcs).2
  obtain ⟨heq, rfl⟩ := spellsChars_unique hs ht
  exact ⟨String.toList_inj.mp heq, rfl⟩

section

variable {α : Type} {spells : α → Spelling} {as bs : List α}
  (h : ∀ a ∈ as, ∀ b cs r r', spells a cs r → spells b cs r' → a = b ∧ r = r') {right : Char}
  (hcomma : right ≠ ',')

include h hcomma

theorem spellsMore_unique {cs r r' : List Char} (has : SpellsMore right (as.map spells) cs r)
    (hbs : SpellsMore right (bs.map spells) cs r') : as = bs ∧ r = r' := by
  induction as generalizing bs cs with
  | nil =>
      cases bs with
      | nil => exact ⟨rfl, (List.cons.inj (has.symm.trans hbs)).2⟩
      | cons b bs =>
          obtain ⟨cs', cs'', hcs, -, -⟩ := hbs
          exact absurd (List.cons.inj (has.symm.trans hcs)).1 hcomma
  | cons a as ih =>
      obtain ⟨hhead, htail⟩ := List.forall_mem_cons.mp h
      obtain ⟨cs', cs'', hcs, ha, has⟩ := has
      cases bs with
      | nil => exact absurd (List.cons.inj (hbs.symm.trans hcs)).1 hcomma
      | cons b bs =>
          obtain ⟨ds', ds'', hds, hb, hbs⟩ := hbs
          obtain rfl := (List.cons.inj (hcs.symm.trans hds)).2
          obtain ⟨rfl, rfl⟩ := hhead b _ _ _ ha hb
          obtain ⟨rfl, rfl⟩ := ih htail has hbs
          exact ⟨rfl, rfl⟩

theorem spellsParts_unique (hright : ∀ a cs r, ¬ spells a (right :: cs) r) {left : Char}
    {cs r r' : List Char} (has : SpellsParts left right (as.map spells) cs r)
    (hbs : SpellsParts left right (bs.map spells) cs r') : as = bs ∧ r = r' := by
  cases as with
  | nil =>
      obtain ⟨cs', rfl, hcs⟩ := has
      cases bs with
      | nil =>
          obtain ⟨ds', heq, hds⟩ := hbs
          obtain rfl := (List.cons.inj heq).2
          exact ⟨rfl, (List.cons.inj (hcs.symm.trans hds)).2⟩
      | cons b bs =>
          obtain ⟨ds', ds'', heq, hb, -⟩ := hbs
          obtain rfl := (List.cons.inj heq).2
          rw [hcs] at hb
          exact absurd hb (hright b _ _)
  | cons a as =>
      obtain ⟨hhead, htail⟩ := List.forall_mem_cons.mp h
      obtain ⟨cs', cs'', rfl, ha, has⟩ := has
      cases bs with
      | nil =>
          obtain ⟨ds', heq, hds⟩ := hbs
          obtain rfl := (List.cons.inj heq).2
          rw [hds] at ha
          exact absurd ha (hright a _ _)
      | cons b bs =>
          obtain ⟨ds', ds'', heq, hb, hbs⟩ := hbs
          obtain rfl := (List.cons.inj heq).2
          obtain ⟨rfl, rfl⟩ := hhead b _ _ _ ha hb
          obtain ⟨rfl, rfl⟩ := spellsMore_unique htail hcomma has hbs
          exact ⟨rfl, rfl⟩

end

theorem opening_eq_of_spells {v w : Json} {cs r r' : List Char} (hv : Spells v cs r)
    (hw : Spells w cs r') : v.opening = w.opening := by
  obtain ⟨cs', rfl⟩ := exists_eq_opening_cons hv
  obtain ⟨ds', heq⟩ := exists_eq_opening_cons hw
  exact (List.cons.inj heq).1

theorem spellsField_unique {name name' : String} {v v' : Json} {cs r r' : List Char}
    (hunique : ∀ w cs r r', Spells v cs r → Spells w cs r' → v = w ∧ r = r')
    (h : SpellsField name (Spells v) cs r) (h' : SpellsField name' (Spells v') cs r') :
    (name, v) = (name', v') ∧ r = r' := by
  obtain ⟨cs', cs'', hname, hcolon, hv⟩ := h
  obtain ⟨ds', ds'', hname', hcolon', hv'⟩ := h'
  obtain ⟨rfl, rfl⟩ := spellsString_unique hname hname'
  obtain rfl := (List.cons.inj (hcolon.symm.trans hcolon')).2
  obtain ⟨rfl, rfl⟩ := hunique _ _ _ _ hv hv'
  exact ⟨rfl, rfl⟩

theorem not_spells_right_bracket (document : Json) (cs rest : List Char) :
    ¬ Spells document (']' :: cs) rest := by
  intro h
  obtain ⟨cs', heq⟩ := exists_eq_opening_cons h
  cases document with
  | bool b => cases b <;> cases heq
  | _ => cases heq

theorem not_spellsField_right_brace (name : String) (document : Spelling) (cs rest : List Char) :
    ¬ SpellsField name document ('\x7d' :: cs) rest := by
  rintro ⟨-, -, ⟨cs', heq, -⟩, -⟩
  cases heq

/-- No text begins with two documents. -/
theorem spells_unique (v w : Json) (cs r r' : List Char) (hv : Spells v cs r)
    (hw : Spells w cs r') : v = w ∧ r = r' := by
  -- texts of documents of different kinds differ in the first character
  induction v using Json.induct generalizing w cs r r' with
  | null =>
      cases w with
      | null => exact ⟨rfl, List.append_cancel_left (hv.symm.trans hw)⟩
      | bool b => cases b <;> cases opening_eq_of_spells hv hw
      | _ => cases opening_eq_of_spells hv hw
  | bool b =>
      cases w with
      | bool b' =>
          obtain rfl : b = b' := by
            cases b <;> cases b' <;> first | rfl | cases opening_eq_of_spells hv hw
          exact ⟨rfl, List.append_cancel_left (hv.symm.trans hw)⟩
      | _ => cases b <;> cases opening_eq_of_spells hv hw
  | text s =>
      cases w with
      | text t =>
          obtain ⟨rfl, rfl⟩ := spellsString_unique hv hw
          exact ⟨rfl, rfl⟩
      | bool b => cases b <;> cases opening_eq_of_spells hv hw
      | _ => cases opening_eq_of_spells hv hw
  | array items ih =>
      cases w with
      | array items' =>
          rw [Spells, spellings_eq_map] at hv hw
          obtain ⟨rfl, rfl⟩ :=
            spellsParts_unique ih (by decide) not_spells_right_bracket hv hw
          exact ⟨rfl, rfl⟩
      | bool b => cases b <;> cases opening_eq_of_spells hv hw
      | _ => cases opening_eq_of_spells hv hw
  | object fields ih =>
      cases w with
      | object fields' =>
          rw [Spells, fieldSpellings_eq_map] at hv hw
          have hfields : ∀ field ∈ fields, ∀ (field' : String × Json) cs r r',
              SpellsField field.1 (Spells field.2) cs r →
              SpellsField field'.1 (Spells field'.2) cs r' → field = field' ∧ r = r' :=
            fun field hfield _ _ _ _ => spellsField_unique (ih field hfield)
          obtain ⟨rfl, rfl⟩ := spellsParts_unique hfields (by decide)
            (fun field => not_spellsField_right_brace field.1 (Spells field.2)) hv hw
          exact ⟨rfl, rfl⟩
      | bool b => cases b <;> cases opening_eq_of_spells hv hw
      | _ => cases opening_eq_of_spells hv hw

/-! ## Printed documents -/

theorem codeUnit?_hexDigits (n : Fin 32) :
    codeUnit? (List.replicate (4 - (Text.hexDigits n).length) '0' ++ Text.hexDigits n) =
      some n.val := by
  revert n
  decide

theorem spellsChar_quoteChar (c : Char) : SpellsChar c (quoteChar c) := by
  unfold quoteChar
  split
  case h_8 hmark hbackslash _ _ _ _ _ =>
    split
    · next hcontrol => exact .unit (codeUnit?_hexDigits ⟨c.toNat, hcontrol⟩)
    · next hcontrol => exact .plain (Nat.not_lt.mp hcontrol) hmark hbackslash
  all_goals exact .letter rfl

theorem spellsString_quote (s : String) (rest : List Char) :
    SpellsString s ((quote s).toList ++ rest) rest := by
  have hchars (cs : List Char) : SpellsChars cs (cs.flatMap quoteChar ++ '"' :: rest) rest := by
    induction cs with
    | nil => rfl
    | cons c cs ih =>
        refine ⟨quoteChar c, _, spellsChar_quoteChar c, ?_, ih⟩
        rw [List.flatMap_cons, List.append_assoc]
  refine ⟨_, ?_, hchars s.toList⟩
  simp [quote]

theorem intercalate_cons_eq_flatMap (separator first : List Char) (others : List (List Char)) :
    separator.intercalate (first :: others) = first ++ others.flatMap (separator ++ ·) := by
  induction others generalizing first with
  | nil => simp
  | cons next others ih =>
      rw [List.intercalate_cons_cons, ih, List.flatMap_cons]
      simp only [List.append_assoc]

theorem isBlank_of_mem_newline {level : Nat} {c : Char} (h : c ∈ (newline level).toList) :
    isBlank c = true := by
  rw [newline, String.toList_ofList] at h
  rcases List.mem_cons.mp h with rfl | h
  · rfl
  · obtain rfl := List.eq_of_mem_replicate h
    rfl

theorem skip_newline_append (level : Nat) (cs : List Char) :
    skip ((newline level).toList ++ cs) = skip cs :=
  skip_append (fun _ hc => isBlank_of_mem_newline hc) cs

/-- A text that stands for a part, whatever comes after it, and does not begin with a blank. -/
structure Prints (part : Spelling) (text : String) : Prop where
  spells : ∀ rest, part (text.toList ++ rest) rest
  skip_eq : ∀ rest, skip (text.toList ++ rest) = text.toList ++ rest

section

variable {right : Char} (hright : isBlank right = false)

include hright

theorem spellsMore_flatMap {parts : List Spelling} {texts : List String}
    (h : List.Forall₂ Prints parts texts) (level inner : Nat) (rest : List Char) :
    SpellsMore right parts
      ((texts.flatMap fun t => ',' :: ((newline inner).toList ++ t.toList)) ++
        ((newline level).toList ++ right :: rest)) rest := by
  induction h with
  | nil => exact (skip_newline_append level _).trans (skip_cons hright rest)
  | @cons part text parts texts hpart _ ih =>
      rw [List.flatMap_cons, List.append_assoc, List.cons_append, List.append_assoc]
      refine ⟨_, _, skip_cons (by decide) _, ?_, ih⟩
      rw [skip_newline_append, hpart.skip_eq]
      exact hpart.spells _

theorem spellsParts_bracketed {parts : List Spelling} {texts : List String}
    (h : List.Forall₂ Prints parts texts) (left : Char) (level : Nat) (rest : List Char) :
    SpellsParts left right parts
      ((bracketed (String.singleton left) (String.singleton right) level texts).toList ++ rest)
      rest := by
  cases h with
  | nil => exact ⟨right :: rest, by simp [bracketed], skip_cons hright rest⟩
  | @cons part text parts texts hpart hparts =>
      have htext : (bracketed (String.singleton left) (String.singleton right) level
          (text :: texts)).toList ++ rest =
          left :: ((newline (level + 1)).toList ++ (text.toList ++
            ((texts.flatMap fun t => ',' :: ((newline (level + 1)).toList ++ t.toList)) ++
              ((newline level).toList ++ right :: rest)))) := by
        simp [bracketed, intercalate_cons_eq_flatMap, List.flatMap_map]
      refine ⟨_, _, htext, ?_, spellsMore_flatMap hright hparts level (level + 1) rest⟩
      rw [skip_newline_append, hpart.skip_eq]
      exact hpart.spells _

end

theorem prints_of_spells {document : Json} {text : String}
    (h : ∀ rest, Spells document (text.toList ++ rest) rest) : Prints (Spells document) text where
  spells := h
  skip_eq rest := by
    obtain ⟨cs, hcs⟩ := exists_eq_opening_cons (h rest)
    rw [hcs, skip_cons (isBlank_opening document)]

theorem prints_field {name : String} {document : Json} {text : String}
    (h : Prints (Spells document) text) :
    Prints (SpellsField name (Spells document)) (quote name ++ ": " ++ text) where
  spells rest := by
    refine ⟨_, ' ' :: (text.toList ++ rest), ?name, skip_cons (by decide) _, ?document⟩
    case name =>
      rw [String.toList_append, String.toList_append, List.append_assoc, List.append_assoc]
      exact spellsString_quote name _
    case document =>
      have hblank : skip (' ' :: (text.toList ++ rest)) = skip (text.toList ++ rest) := rfl
      rw [hblank, h.skip_eq]
      exact h.spells rest
  skip_eq rest := by
    rw [String.toList_append, String.toList_append, List.append_assoc, List.append_assoc]
    obtain ⟨cs, hcs, -⟩ := spellsString_quote name (": ".toList ++ (text.toList ++ rest))
    rw [hcs, skip_cons (by decide)]

/-- A document is printed as it can be written. -/
theorem spells_print (document : Json) (level : Nat) (rest : List Char) :
    Spells document ((print level document).toList ++ rest) rest := by
  induction document using Json.induct generalizing level rest with
  | null => rfl
  | bool b => rfl
  | text s => exact spellsString_quote s rest
  | array items ih =>
      rw [print, Spells, printItems_eq_map, spellings_eq_map]
      refine spellsParts_bracketed (by decide) ?_ '[' level rest
      rw [List.forall₂_map_left_iff, List.forall₂_map_right_iff, List.forall₂_same]
      exact fun item hitem => prints_of_spells (ih item hitem (level + 1))
  | object fields ih =>
      rw [print, Spells, printFields_eq_map, fieldSpellings_eq_map]
      refine spellsParts_bracketed (by decide) ?_ '\x7b' level rest
      rw [List.forall₂_map_left_iff, List.forall₂_map_right_iff, List.forall₂_same]
      exact fun field hfield => prints_field (prints_of_spells (ih field hfield (level + 1)))

theorem isDocumentLine_toText (document : Json) :
    IsDocumentLine (document.toText ++ "\n") document := by
  have hspells : Spells document (skip (document.toText ++ "\n").toList) ['\n'] := by
    rw [toText, String.toList_append, (prints_of_spells (spells_print document 0)).skip_eq]
    exact spells_print document 0 _
  refine ⟨hspells, fun other rest hother => ?_⟩
  exact spells_unique other document _ rest _ hother hspells

end Scaffold.Json
