import Scaffold.Proofs.Attribute.Specification
/-!
# Words of names

A name that was read falls into nonempty runs of letters and digits. Its snake form keeps them apart
by underscores, its Pascal form only by capitals, so a Pascal form can be cut into its words again
as far as these hold no digits.
-/

namespace Scaffold.Words

open Text

/-! ## Letters and digits -/

def isSmall (c : Char) : Bool :=
  c.isLower || c.isDigit

theorem toNat_lt_of_isAlphanum {c : Char} (h : c.isAlphanum = true) : c.toNat < 0x80 := by
  have hcode := Attribute.code_of_isAlphanum h
  omega

theorem lowerChar_of_ascii {c : Char} (h : c.toNat < 0x80) : lowerChar c = [c.toLower] :=
  if_pos h

theorem upperChar_of_ascii {c : Char} (h : c.toNat < 0x80) : upperChar c = [c.toUpper] :=
  if_pos h

theorem isAlphanum_of_isSmall {c : Char} (h : isSmall c = true) : c.isAlphanum = true := by
  rw [isSmall, Bool.or_eq_true] at h
  change (c.isUpper || c.isLower || c.isDigit) = true
  rcases h with h | h
  · rw [h, Bool.or_true, Bool.true_or]
  · rw [h, Bool.or_true]

theorem case_of_isAlphanum {c : Char} (h : c.isAlphanum = true) :
    (isSmall c.toLower = true ∧ c.toLower.toUpper = c.toUpper ∧ c.toUpper.isAlphanum = true) ∧
    (isSmall c = true → c.toLower = c ∧ c.toUpper.toLower = c ∧ c.toUpper.isLower = false) ∧
    (c.isLower = true → isSmall c.toUpper = false) := by
  have hcode := toNat_lt_of_isAlphanum h
  rw [← Char.ofNat_toNat c] at h ⊢
  generalize c.toNat = n at hcode h ⊢
  revert n
  decide +kernel

theorem isSmall_toLower {c : Char} (h : c.isAlphanum = true) : isSmall c.toLower = true :=
  (case_of_isAlphanum h).1.1

theorem toUpper_toLower {c : Char} (h : c.isAlphanum = true) : c.toLower.toUpper = c.toUpper :=
  (case_of_isAlphanum h).1.2.1

theorem isAlphanum_toUpper {c : Char} (h : c.isAlphanum = true) : c.toUpper.isAlphanum = true :=
  (case_of_isAlphanum h).1.2.2

theorem toLower_of_isSmall {c : Char} (h : isSmall c = true) : c.toLower = c :=
  ((case_of_isAlphanum (isAlphanum_of_isSmall h)).2.1 h).1

theorem toLower_toUpper {c : Char} (h : isSmall c = true) : c.toUpper.toLower = c :=
  ((case_of_isAlphanum (isAlphanum_of_isSmall h)).2.1 h).2.1

theorem isLower_toUpper {c : Char} (h : isSmall c = true) : c.toUpper.isLower = false :=
  ((case_of_isAlphanum (isAlphanum_of_isSmall h)).2.1 h).2.2

theorem isSmall_of_isLower {c : Char} (h : c.isLower = true) : isSmall c = true := by
  rw [isSmall, h, Bool.true_or]

theorem isLower_toLower {c : Char} (h : c.isAlpha = true) : c.toLower.isLower = true := by
  have hcode := toNat_lt_of_isAlphanum (c := c) (by rw [Char.isAlphanum, h, Bool.true_or])
  rw [← Char.ofNat_toNat c] at h ⊢
  generalize c.toNat = n at hcode h ⊢
  revert n
  decide +kernel

theorem isSmall_toUpper {c : Char} (h : c.isLower = true) : isSmall c.toUpper = false :=
  (case_of_isAlphanum (isAlphanum_of_isSmall (isSmall_of_isLower h))).2.2 h

/-! ## Cutting -/

/-- A nonempty run of letters and digits. -/
structure IsWord (word : List Char) : Prop where
  ne_nil : word ≠ []
  isAlphanum : ∀ c ∈ word, c.isAlphanum = true

theorem isWord_concat {word : List Char} {c : Char} (hword : ∀ d ∈ word, d.isAlphanum = true)
    (hc : c.isAlphanum = true) : IsWord (word ++ [c]) where
  ne_nil := by simp
  isAlphanum := List.forall_mem_append.mpr ⟨hword, List.forall_mem_singleton.mpr hc⟩

theorem isWord_of_mem_cutRun {casing : Casing} {word cs : List Char}
    (hword : ∀ c ∈ word, c.isAlphanum = true) (hcs : ∀ c ∈ cs, c.isAlphanum = true)
    (hupper : casing = .upper → word ≠ []) :
    ∀ piece ∈ cutRun casing word cs, IsWord piece := by
  -- a word in uppercase has begun, so no empty word is cut off
  fun_induction cutRun casing word cs with
  | case1 => exact List.forall_mem_nil _
  | case2 casing word c =>
      exact List.forall_mem_singleton.mpr (isWord_concat hword (hcs c List.mem_cons_self))
  | case3 casing word c d rest hcut ih =>
      obtain ⟨hc, hrest⟩ := List.forall_mem_cons.mp hcs
      exact List.forall_mem_cons.mpr
        ⟨isWord_concat hword hc, ih (List.forall_mem_nil _) hrest nofun⟩
  | case4 casing word c d rest _ hcut ih =>
      obtain ⟨hc, hrest⟩ := List.forall_mem_cons.mp hcs
      exact List.forall_mem_cons.mpr
        ⟨⟨hupper hcut.1, hword⟩, ih (List.forall_mem_singleton.mpr hc) hrest nofun⟩
  | case5 casing word c d rest _ _ ih =>
      obtain ⟨hc, hrest⟩ := List.forall_mem_cons.mp hcs
      have hbegun := isWord_concat hword hc
      exact ih hbegun.isAlphanum hrest fun _ => hbegun.ne_nil

theorem cutRun_ne_nil {casing : Casing} {word cs : List Char} (h : cs ≠ []) :
    cutRun casing word cs ≠ [] := by
  fun_induction cutRun casing word cs with
  | case1 => exact absurd rfl h
  | case2 => exact List.cons_ne_nil _ _
  | case3 => exact List.cons_ne_nil _ _
  | case4 => exact List.cons_ne_nil _ _
  | case5 casing word c d rest _ _ ih => exact ih (List.cons_ne_nil _ _)

theorem mem_of_mem_fieldsBy {p : Char → Bool} {cs field : List Char} (h : field ∈ fieldsBy p cs) :
    ∀ c ∈ field, c ∈ cs ∧ p c = false := by
  fun_induction fieldsBy p cs generalizing field with
  | case1 =>
      obtain rfl := List.mem_singleton.mp h
      exact List.forall_mem_nil _
  | case2 d cs hp ih =>
      rcases List.mem_cons.mp h with rfl | h
      · exact List.forall_mem_nil _
      · exact fun c hc => ⟨List.mem_cons_of_mem _ (ih h c hc).1, (ih h c hc).2⟩
  | case3 d cs first rest hrest hp ih =>
      have hkept {part : List Char} (hpart : part ∈ first :: rest) :
          ∀ c ∈ part, c ∈ d :: cs ∧ p c = false := fun c hc =>
        ⟨List.mem_cons_of_mem _ (ih (hrest ▸ hpart) c hc).1, (ih (hrest ▸ hpart) c hc).2⟩
      rcases List.mem_cons.mp h with rfl | h
      · exact List.forall_mem_cons.mpr
          ⟨⟨List.mem_cons_self, hp⟩, hkept List.mem_cons_self⟩
      · exact hkept (List.mem_cons_of_mem _ h)
  | case4 d cs hrest hp ih =>
      obtain rfl := List.mem_singleton.mp h
      exact List.forall_mem_singleton.mpr ⟨List.mem_cons_self, hp⟩

theorem isAlphanum_of_isNameCharacter {c : Char} (h : Attribute.isNameCharacter c = true)
    (hc : isAlphanumeric c = true) : c.isAlphanum = true := by
  rw [Attribute.isNameCharacter, Bool.or_eq_true, Bool.or_eq_true, decide_eq_true_eq,
    decide_eq_true_eq] at h
  rcases h with (h | rfl) | rfl
  · exact h
  · exact absurd hc (by decide)
  · exact absurd hc (by decide)

theorem isWord_of_mem_words {name : List Char} (h : Attribute.nameFault? name = none) :
    ∀ word ∈ words name, IsWord word := by
  intro word hword
  obtain ⟨run, hrun, hword⟩ := List.mem_flatMap.mp hword
  have hletters : ∀ c ∈ run, c.isAlphanum = true := by
    intro c hc
    obtain ⟨hmem, hseparator⟩ := mem_of_mem_fieldsBy hrun c hc
    rw [Bool.not_eq_false'] at hseparator
    have hname := (Attribute.nameFault?_eq_none_iff.mp h).2 c hmem
    exact isAlphanum_of_isNameCharacter hname hseparator
  have hunknown : Casing.unknown = .upper → ([] : List Char) ≠ [] := nofun
  exact isWord_of_mem_cutRun (List.forall_mem_nil _) hletters hunknown word hword

theorem prefix_of_head?_cutRun {casing : Casing} {word cs piece : List Char}
    (h : (cutRun casing word cs).head? = some piece) : word <+: piece := by
  fun_induction cutRun casing word cs generalizing piece with
  | case1 => cases h
  | case2 casing word c =>
      obtain rfl := Option.some.inj h
      exact List.prefix_append _ _
  | case3 casing word c d rest hcut ih =>
      obtain rfl := Option.some.inj h
      exact List.prefix_append _ _
  | case4 casing word c d rest _ hcut ih =>
      obtain rfl := Option.some.inj h
      exact List.prefix_refl _
  | case5 casing word c d rest _ _ ih => exact (List.prefix_append _ _).trans (ih h)

theorem exists_cutRun_eq_cons (c : Char) (run : List Char) :
    ∃ rest more, cutRun .unknown [] (c :: run) = (c :: rest) :: more := by
  obtain ⟨piece, more, hpieces⟩ :=
    List.exists_cons_of_ne_nil (@cutRun_ne_nil .unknown [] (c :: run) (List.cons_ne_nil _ _))
  have hstart : [c] <+: piece := by
    cases run with
    | nil =>
        obtain ⟨rfl, -⟩ := List.cons.inj hpieces
        exact List.prefix_refl _
    | cons d run =>
        rw [cutRun] at hpieces
        split at hpieces
        · obtain ⟨rfl, -⟩ := List.cons.inj hpieces
          exact List.prefix_refl _
        · rw [if_neg nofun] at hpieces
          have hhead :
              (cutRun (Casing.unknown.after c) ([] ++ [c]) (d :: run)).head? = some piece := by
            rw [hpieces]
            rfl
          exact prefix_of_head?_cutRun hhead
  obtain ⟨rest, rfl⟩ := hstart
  exact ⟨rest, more, hpieces⟩

theorem exists_words_eq_cons {name : List Char} (h : Attribute.nameFault? name = none) :
    ∃ c rest more, words name = (c :: rest) :: more ∧ c.isAlpha = true := by
  obtain ⟨⟨c, hhead, hletter⟩, -⟩ := Attribute.nameFault?_eq_none_iff.mp h
  obtain ⟨cs, rfl⟩ := List.head?_eq_some_iff.mp hhead
  have halphanum : c.isAlphanum = true := by rw [Char.isAlphanum, hletter, Bool.true_or]
  have hletters : isAlphanumeric c = true := by
    rw [isAlphanumeric, if_pos (toNat_lt_of_isAlphanum halphanum), halphanum]
  obtain ⟨run, runs, hfields⟩ :
      ∃ run runs, fieldsBy (fun d => !isAlphanumeric d) (c :: cs) = (c :: run) :: runs := by
    rw [fieldsBy, hletters, Bool.not_true]
    cases fieldsBy (fun d => !isAlphanumeric d) cs with
    | nil => exact ⟨[], [], rfl⟩
    | cons run runs => exact ⟨run, runs, rfl⟩
  obtain ⟨rest, more, hcut⟩ := exists_cutRun_eq_cons c run
  rw [words, hfields, List.flatMap_cons, hcut]
  exact ⟨c, rest, _, rfl, hletter⟩

/-! ## Lowercase words -/

def lowerWords (text : List Char) : List (List Char) :=
  (words text).map lowerWord

structure IsSmallWord (word : List Char) : Prop where
  ne_nil : word ≠ []
  isSmall : ∀ c ∈ word, isSmall c = true

theorem lowerWord_eq_map {word : List Char} (h : ∀ c ∈ word, c.isAlphanum = true) :
    lowerWord word = word.map Char.toLower := by
  fun_induction lowerWord word with
  | case1 => rfl
  | case2 c hsigma =>
      have hcode := toNat_lt_of_isAlphanum (h c List.mem_cons_self)
      omega
  | case3 c _ => exact lowerChar_of_ascii (toNat_lt_of_isAlphanum (h c List.mem_cons_self))
  | case4 c rest _ ih =>
      obtain ⟨hc, hrest⟩ := List.forall_mem_cons.mp h
      rw [ih hrest, lowerChar_of_ascii (toNat_lt_of_isAlphanum hc)]
      rfl

theorem capitalWord_cons {c : Char} {rest : List Char} (h : IsWord (c :: rest)) :
    capitalWord (c :: rest) = c.toUpper :: rest.map Char.toLower := by
  obtain ⟨hc, hrest⟩ := List.forall_mem_cons.mp h.isAlphanum
  rw [capitalWord, upperChar_of_ascii (toNat_lt_of_isAlphanum hc), lowerWord_eq_map hrest]
  rfl

theorem IsSmallWord.isWord {word : List Char} (h : IsSmallWord word) : IsWord word where
  ne_nil := h.ne_nil
  isAlphanum c hc := isAlphanum_of_isSmall (h.isSmall c hc)

theorem IsWord.isSmallWord_lowerWord {word : List Char} (h : IsWord word) :
    IsSmallWord (lowerWord word) := by
  rw [lowerWord_eq_map h.isAlphanum]
  refine ⟨fun hnil => h.ne_nil (List.map_eq_nil_iff.mp hnil), ?_⟩
  exact List.forall_mem_map.mpr fun c hc => isSmall_toLower (h.isAlphanum c hc)

theorem map_toLower_of_isSmall {word : List Char} (h : ∀ c ∈ word, isSmall c = true) :
    word.map Char.toLower = word := by
  have hsame : word.map Char.toLower = word.map id :=
    List.map_congr_left fun c hc => toLower_of_isSmall (h c hc)
  rw [hsame, List.map_id]

theorem IsSmallWord.capitalWord_cons {c : Char} {rest : List Char} (h : IsSmallWord (c :: rest)) :
    capitalWord (c :: rest) = c.toUpper :: rest := by
  rw [Words.capitalWord_cons h.isWord,
    map_toLower_of_isSmall (List.forall_mem_cons.mp h.isSmall).2]

theorem IsWord.capitalWord_lowerWord {word : List Char} (h : IsWord word) :
    capitalWord (lowerWord word) = capitalWord word := by
  have hsmall := h.isSmallWord_lowerWord
  rw [lowerWord_eq_map h.isAlphanum] at hsmall ⊢
  cases word with
  | nil => rfl
  | cons c rest =>
      rw [List.map_cons] at hsmall ⊢
      rw [hsmall.capitalWord_cons, Words.capitalWord_cons h,
        toUpper_toLower (h.isAlphanum c List.mem_cons_self)]

def capitals (pieces : List (List Char)) : List Char :=
  (pieces.map capitalWord).flatten

section Name

variable {name : List Char} (h : Attribute.nameFault? name = none)

include h

theorem isSmallWord_of_mem_lowerWords : ∀ word ∈ lowerWords name, IsSmallWord word :=
  List.forall_mem_map.mpr fun word hword => (isWord_of_mem_words h word hword).isSmallWord_lowerWord

theorem exists_lowerWords_eq_cons :
    ∃ c rest more, lowerWords name = (c :: rest) :: more ∧ c.isLower = true := by
  obtain ⟨c, rest, more, hwords, hletter⟩ := exists_words_eq_cons h
  have hword : IsWord (c :: rest) :=
    isWord_of_mem_words h _ (by rw [hwords]; exact List.mem_cons_self)
  rw [lowerWords, hwords, List.map_cons, lowerWord_eq_map hword.isAlphanum, List.map_cons]
  exact ⟨_, _, _, rfl, isLower_toLower hletter⟩

theorem lowerWords_ne_nil : lowerWords name ≠ [] := by
  obtain ⟨c, rest, more, hwords, -⟩ := exists_lowerWords_eq_cons h
  rw [hwords]
  exact List.cons_ne_nil _ _

theorem pascal_eq_capitals : pascal name = capitals (lowerWords name) := by
  rw [pascal, capitals, lowerWords, List.map_map]
  congr 1
  exact List.map_congr_left fun word hword =>
    (isWord_of_mem_words h word hword).capitalWord_lowerWord.symm

end Name

/-! ## Words given back -/

structure IsLetterWord (word : List Char) : Prop where
  ne_nil : word ≠ []
  isLower : ∀ c ∈ word, c.isLower = true

instance (word : List Char) : Decidable (IsLetterWord word) :=
  decidable_of_iff (word ≠ [] ∧ word.all Char.isLower = true)
    ⟨fun h => ⟨h.1, List.all_eq_true.mp h.2⟩, fun h => ⟨h.ne_nil, List.all_eq_true.mpr h.isLower⟩⟩

theorem IsLetterWord.isSmallWord {word : List Char} (h : IsLetterWord word) : IsSmallWord word where
  ne_nil := h.ne_nil
  isSmall c hc := isSmall_of_isLower (h.isLower c hc)

theorem capitals_cons {c : Char} {rest : List Char} (pieces : List (List Char))
    (h : IsSmallWord (c :: rest)) :
    capitals ((c :: rest) :: pieces) = c.toUpper :: (rest ++ capitals pieces) := by
  rw [capitals, List.map_cons, List.flatten_cons, h.capitalWord_cons]
  rfl

theorem exists_toUpper_of_head?_capitals {pieces : List (List Char)}
    (h : ∀ word ∈ pieces, IsSmallWord word) {c : Char} (hc : (capitals pieces).head? = some c) :
    ∃ word ∈ pieces, ∃ d ∈ word, c = d.toUpper := by
  cases pieces with
  | nil => cases hc
  | cons word pieces =>
      have hword := h word List.mem_cons_self
      obtain ⟨d, rest, rfl⟩ := List.exists_cons_of_ne_nil hword.ne_nil
      rw [capitals_cons pieces hword] at hc
      exact ⟨d :: rest, List.mem_cons_self, d, List.mem_cons_self, (Option.some.inj hc).symm⟩

theorem isLower_of_head?_capitals {pieces : List (List Char)}
    (h : ∀ word ∈ pieces, IsSmallWord word) {c : Char} (hc : (capitals pieces).head? = some c) :
    c.isLower = false := by
  obtain ⟨word, hword, d, hd, rfl⟩ := exists_toUpper_of_head?_capitals h hc
  exact isLower_toUpper ((h word hword).isSmall d hd)

theorem isSmall_of_head?_capitals {pieces : List (List Char)}
    (h : ∀ word ∈ pieces, IsLetterWord word) {c : Char} (hc : (capitals pieces).head? = some c) :
    isSmall c = false := by
  obtain ⟨word, hword, d, hd, rfl⟩ :=
    exists_toUpper_of_head?_capitals (fun word hword => (h word hword).isSmallWord) hc
  exact isSmall_toUpper ((h word hword).isLower d hd)

/-- Two texts are cut alike if neither second part begins with a character of the other's first. -/
theorem append_inj_of_head? {as bs cs ds : List Char} (h : as ++ bs = cs ++ ds)
    (hbs : ∀ c, bs.head? = some c → c ∉ cs) (hds : ∀ c, ds.head? = some c → c ∉ as) :
    as = cs ∧ bs = ds := by
  rcases List.append_eq_append_iff.mp h with ⟨between, rfl, rfl⟩ | ⟨between, rfl, rfl⟩
  · cases between with
    | nil => simp
    | cons c between => exact absurd (by simp) (hbs c rfl)
  · cases between with
    | nil => simp
    | cons c between => exact absurd (by simp) (hds c rfl)

/-- Capitals mark where words of letters begin. Words that hold digits could begin elsewhere, but
then the digits would show. -/
theorem eq_of_capitals_eq {pieces others : List (List Char)}
    (hpieces : ∀ word ∈ pieces, IsSmallWord word) (hothers : ∀ word ∈ others, IsLetterWord word)
    (h : capitals pieces = capitals others) : pieces = others := by
  induction others generalizing pieces with
  | nil =>
      cases pieces with
      | nil => rfl
      | cons word pieces =>
          have hword := hpieces word List.mem_cons_self
          obtain ⟨c, rest, rfl⟩ := List.exists_cons_of_ne_nil hword.ne_nil
          rw [capitals_cons pieces hword] at h
          cases h
  | cons other others ih =>
      obtain ⟨hother, hlaterOthers⟩ := List.forall_mem_cons.mp hothers
      obtain ⟨d, tail, rfl⟩ := List.exists_cons_of_ne_nil hother.ne_nil
      obtain ⟨hd, htail⟩ := List.forall_mem_cons.mp hother.isLower
      rw [capitals_cons others hother.isSmallWord] at h
      cases pieces with
      | nil => cases h
      | cons word pieces =>
          obtain ⟨hword, hlaterPieces⟩ := List.forall_mem_cons.mp hpieces
          obtain ⟨c, rest, rfl⟩ := List.exists_cons_of_ne_nil hword.ne_nil
          obtain ⟨hc, hrest⟩ := List.forall_mem_cons.mp hword.isSmall
          rw [capitals_cons pieces hword] at h
          obtain ⟨hfirst, hafter⟩ := List.cons.inj h
          have hsame : c = d := by
            rw [← toLower_toUpper hc, hfirst, toLower_toUpper (isSmall_of_isLower hd)]
          have hnext : ∀ e, (capitals pieces).head? = some e → e ∉ tail := by
            intro e he hmem
            have hcapital := isLower_of_head?_capitals hlaterPieces he
            rw [htail e hmem] at hcapital
            cases hcapital
          have hnextOther : ∀ e, (capitals others).head? = some e → e ∉ rest := by
            intro e he hmem
            have hcapital := isSmall_of_head?_capitals hlaterOthers he
            rw [hrest e hmem] at hcapital
            cases hcapital
          obtain ⟨hrests, hlater⟩ := append_inj_of_head? hafter hnext hnextOther
          rw [hsame, hrests, ih hlaterPieces hlaterOthers hlater]

theorem mem_of_mem_joinWith {separator : List Char} {parts : List (List Char)} {c : Char}
    (h : c ∈ joinWith separator parts) : c ∈ separator ∨ ∃ part ∈ parts, c ∈ part := by
  fun_induction joinWith separator parts with
  | case1 => cases h
  | case2 part => exact .inr ⟨part, List.mem_cons_self, h⟩
  | case3 part rest _ ih =>
      rcases List.mem_append.mp h with h | h
      · rcases List.mem_append.mp h with h | h
        · exact .inr ⟨part, List.mem_cons_self, h⟩
        · exact .inl h
      · rcases ih h with h | ⟨other, hother, h⟩
        · exact .inl h
        · exact .inr ⟨other, List.mem_cons_of_mem _ hother, h⟩

/-! ## Names with the same words -/

section Name

variable {name : List Char} (h : Attribute.nameFault? name = none) {pieces : List (List Char)}

include h

theorem snake_eq_iff (hne : pieces ≠ []) (hpieces : ∀ word ∈ pieces, IsSmallWord word) :
    snake name = joinWith ['_'] pieces ↔ lowerWords name = pieces := by
  have hfree {words : List (List Char)} (hwords : ∀ word ∈ words, IsSmallWord word) :
      ∀ word ∈ words, '_' ∉ word := fun word hword hmem =>
    absurd ((hwords word hword).isSmall _ hmem) (by decide)
  constructor
  · intro hsnake
    rw [← fields_joinWith hne (hfree hpieces), ← hsnake]
    exact (fields_joinWith (lowerWords_ne_nil h) (hfree (isSmallWord_of_mem_lowerWords h))).symm
  · intro hwords
    rw [← hwords]
    rfl

theorem pascal_eq_iff (hpieces : ∀ word ∈ pieces, IsLetterWord word) :
    pascal name = capitals pieces ↔ lowerWords name = pieces := by
  rw [pascal_eq_capitals h]
  exact ⟨eq_of_capitals_eq (isSmallWord_of_mem_lowerWords h) hpieces, congrArg capitals⟩

end Name

end Scaffold.Words

namespace Scaffold.Attribute

open Text Words

variable {a : Attribute} (h : a.Readable)

include h

/-- The field and the column of an attribute are the Pascal and the snake form of the same words. -/
theorem Readable.displayName_eq_iff {pieces : List (List Char)} (hne : pieces ≠ [])
    (hpieces : ∀ word ∈ pieces, IsLetterWord word) :
    a.displayName = String.ofList (capitals pieces) ↔
      a.normalized = String.ofList (joinWith ['_'] pieces) := by
  have hsmall : ∀ word ∈ pieces, IsSmallWord word := fun word hword =>
    (hpieces word hword).isSmallWord
  rw [displayName, normalized, normalize, String.ofList_inj, String.ofList_inj,
    pascal_eq_iff h.name_ok hpieces, snake_eq_iff h.name_ok hne hsmall]

theorem Readable.isAlphanum_of_mem_displayName :
    ∀ c ∈ a.displayName.toList, c.isAlphanum = true := by
  rw [displayName, String.toList_ofList, pascal_eq_capitals h.name_ok]
  intro c hc
  obtain ⟨part, hpart, hc⟩ := List.mem_flatten.mp hc
  obtain ⟨word, hword, rfl⟩ := List.mem_map.mp hpart
  have hsmall := isSmallWord_of_mem_lowerWords h.name_ok word hword
  obtain ⟨d, rest, rfl⟩ := List.exists_cons_of_ne_nil hsmall.ne_nil
  rw [hsmall.capitalWord_cons] at hc
  obtain ⟨hd, hrest⟩ := List.forall_mem_cons.mp hsmall.isWord.isAlphanum
  rcases List.mem_cons.mp hc with rfl | hc
  · exact isAlphanum_toUpper hd
  · exact hrest c hc

theorem Readable.isNameCharacter_of_mem_normalized :
    ∀ c ∈ a.normalized.toList, isNameCharacter c = true := by
  rw [normalized, normalize, String.toList_ofList]
  intro c hc
  have hwords := isSmallWord_of_mem_lowerWords h.name_ok
  rcases mem_of_mem_joinWith hc with hc | ⟨word, hword, hc⟩
  · obtain rfl := List.mem_singleton.mp hc
    rfl
  · rw [isNameCharacter, (hwords word hword).isWord.isAlphanum c hc]
    rfl

end Scaffold.Attribute
