import Mathlib.Tactic.SplitIfs
import Scaffold.Path.Basic
import Scaffold.Proofs.Text.Fields
/-!
# The octets of texts

A text is known from its octets, and an octet below 0x80 stands in them exactly where its character
stands in the text. What is shown of octets that are no text has the same property for all
characters but the null character: what was not read as a character is replaced by one that is not
plain.
-/

namespace Scaffold

open Text

namespace Text.Utf8

@[simp] theorem encode_nil : encode [] = [] := rfl

theorem encode_cons (c : Char) (cs : List Char) :
    encode (c :: cs) = String.utf8EncodeChar c ++ encode cs :=
  List.flatMap_cons

theorem encode_append (cs ds : List Char) : encode (cs ++ ds) = encode cs ++ encode ds :=
  List.flatMap_append

theorem encode_inj {cs ds : List Char} : encode cs = encode ds ↔ cs = ds := by
  rw [← List.toByteArray_inj]
  change cs.utf8Encode = ds.utf8Encode ↔ _
  rw [← String.toByteArray_ofList, ← String.toByteArray_ofList, String.toByteArray_inj,
    String.ofList_inj]

theorem utf8EncodeChar_of_lt {c : Char} (h : c.toNat < 0x80) :
    String.utf8EncodeChar c = [UInt8.ofNat c.toNat] := by
  rw [String.utf8EncodeChar, Char.toNat_val, if_pos (Nat.le_of_lt_succ h)]

theorem le_of_mem_utf8EncodeChar {c : Char} (h : 0x80 ≤ c.toNat) {b : UInt8}
    (hb : b ∈ String.utf8EncodeChar c) : 0x80 ≤ b.toNat := by
  simp only [String.utf8EncodeChar, Char.toNat_val] at hb
  split at hb
  · omega
  · split at hb
    · simp only [List.mem_cons, List.not_mem_nil, or_false] at hb
      rcases hb with rfl | rfl <;> simp only [UInt8.toNat_ofNat'] <;> omega
    · split at hb
      · simp only [List.mem_cons, List.not_mem_nil, or_false] at hb
        rcases hb with rfl | rfl | rfl <;> simp only [UInt8.toNat_ofNat'] <;> omega
      · simp only [List.mem_cons, List.not_mem_nil, or_false] at hb
        rcases hb with rfl | rfl | rfl | rfl <;> simp only [UInt8.toNat_ofNat'] <;> omega

theorem toNat_ofNat_toNat {c : Char} (h : c.toNat < 0x80) :
    (UInt8.ofNat c.toNat).toNat = c.toNat := by
  rw [UInt8.toNat_ofNat']
  omega

theorem mem_utf8EncodeChar_iff {c d : Char} (hc : c.toNat < 0x80) :
    UInt8.ofNat c.toNat ∈ String.utf8EncodeChar d ↔ c = d := by
  have hoctet := toNat_ofNat_toNat hc
  by_cases hd : d.toNat < 0x80
  · rw [utf8EncodeChar_of_lt hd, List.mem_singleton, ← Char.toNat_inj, ← UInt8.toNat_inj, hoctet,
      toNat_ofNat_toNat hd]
  · refine iff_of_false (fun hmem => ?_) (fun heq => hd (heq ▸ hc))
    have hle := le_of_mem_utf8EncodeChar (Nat.le_of_not_lt hd) hmem
    omega

theorem mem_encode_iff {c : Char} (hc : c.toNat < 0x80) {cs : List Char} :
    UInt8.ofNat c.toNat ∈ encode cs ↔ c ∈ cs := by
  rw [encode, List.mem_flatMap]
  simp only [mem_utf8EncodeChar_iff hc, exists_eq_right']

/-- Octets are cut at a separator below 0x80 as their text is. -/
theorem fields_encode {c : Char} (hc : c.toNat < 0x80) (cs : List Char) :
    fields (UInt8.ofNat c.toNat) (encode cs) = (fields c cs).map encode := by
  induction cs with
  | nil => rfl
  | cons d cs ih =>
      obtain ⟨field, rest, hfields⟩ := exists_fields_eq_cons c cs
      by_cases hd : d = c
      · rw [hd, encode_cons, utf8EncodeChar_of_lt hc, List.singleton_append, fields_cons_separator,
          fields_cons_separator, ih, List.map_cons, encode_nil]
      · have hfree : UInt8.ofNat c.toNat ∉ String.utf8EncodeChar d :=
          mt (mem_utf8EncodeChar_iff hc).mp (Ne.symm hd)
        rw [hfields, List.map_cons] at ih
        rw [fields_cons_of_ne hd hfields, encode_cons, fields_append_of_notMem hfree ih,
          List.map_cons, encode_cons]

/-! ## Octets that are no text -/

def Started.least (s : Started) : Nat :=
  s.due.foldl (fun bits range => bits * 64 + (range.1 - 0x80)) s.bits

/-- A started character still has octets due, and it does not come to a number below 0x80. -/
structure Started.IsSound (s : Started) : Prop where
  due_ne_nil : s.due ≠ []
  le_least : 0x80 ≤ s.least

/-- A character that a single octet stands for, the null character excepted. -/
def IsPlain (c : Char) : Prop :=
  0 < c.toNat ∧ c.toNat < 0x80

instance (c : Char) : Decidable (IsPlain c) :=
  inferInstanceAs (Decidable (_ ∧ _))

theorem not_isPlain_ofNat {n : Nat} (h : 0x80 ≤ n) : ¬ IsPlain (Char.ofNat n) := by
  rintro ⟨hpos, hlt⟩
  by_cases hvalid : n.isValidChar
  · rw [Char.ofNat, dif_pos hvalid] at hlt
    have : (Char.ofNatAux n hvalid).toNat = n := rfl
    omega
  · rw [Char.ofNat, dif_neg hvalid] at hpos
    exact absurd hpos (by decide)

theorem isSound_of_first_eq_inr {b : Nat} {s : Started} (h : first b = .inr s) : s.IsSound := by
  unfold first at h
  split_ifs at h with hascii hlate htwo hthree hsurrogate hmiddle hfour hlow hhigh
  all_goals
    obtain rfl := Sum.inr.inj h
    refine ⟨List.cons_ne_nil _ _, ?_⟩
    simp only [Started.least, List.foldl_cons, List.foldl_nil]
    omega

theorem foldl_le_foldl (due : List (Nat × Nat)) {a b : Nat} (h : a ≤ b) :
    due.foldl (fun bits range => bits * 64 + (range.1 - 0x80)) a ≤
      due.foldl (fun bits range => bits * 64 + (range.1 - 0x80)) b := by
  induction due generalizing a b with
  | nil => exact h
  | cons range due ih =>
      simp only [List.foldl_cons]
      exact ih (by omega)

/-- What one octet can do to what is read, and what is read in the end. A character that more than
one octet was read for is not plain. -/
inductive Decodes : Option Started → List UInt8 → List Char → Prop
  | done : Decodes none [] []
  | cut (s : Started) : Decodes (some s) [] [replacement]
  | single {c bs cs} (hc : c.toNat < 0x80) (h : Decodes none bs cs) :
      Decodes none (UInt8.ofNat c.toNat :: bs) (c :: cs)
  | stray {b bs cs} (h : Decodes none bs cs) : Decodes none (b :: bs) (replacement :: cs)
  | start {s b bs cs} (h : Decodes (some s) bs cs) : Decodes none (b :: bs) cs
  | finish {s b bs c cs} (hc : ¬ IsPlain c) (h : Decodes none bs cs) :
      Decodes (some s) (b :: bs) (c :: cs)
  | next {s s' b bs cs} (h : Decodes (some s') bs cs) : Decodes (some s) (b :: bs) cs
  | broken {s b bs cs} (h : Decodes none (b :: bs) cs) :
      Decodes (some s) (b :: bs) (replacement :: cs)

theorem first_eq_inl {b : UInt8} {c : Char} (h : first b.toNat = .inl c) :
    c = replacement ∨ c.toNat < 0x80 ∧ b = UInt8.ofNat c.toNat := by
  unfold first at h
  split_ifs at h with hascii
  · obtain rfl := Sum.inl.inj h
    have hvalid : b.toNat.isValidChar := .inl (by omega)
    have hcode : (Char.ofNat b.toNat).toNat = b.toNat := by
      rw [Char.ofNat, dif_pos hvalid]
      rfl
    exact .inr ⟨by omega, by rw [hcode, UInt8.ofNat_toNat]⟩
  all_goals exact .inl (Sum.inl.inj h).symm

theorem decodes_start {b : UInt8} {bs : List UInt8} {cs : List Char}
    (h : Decodes (start b).2 bs cs) : Decodes none (b :: bs) ((start b).1 ++ cs) := by
  unfold start at h ⊢
  split at h
  · next c hfirst =>
      rcases first_eq_inl hfirst with rfl | ⟨hc, rfl⟩
      · exact .stray h
      · exact .single hc h
  · exact .start h

theorem decodes_proceed {s : Started} (hs : s.IsSound) {b : UInt8} {bs : List UInt8}
    {cs : List Char} (h : Decodes (proceed s b).2 bs cs) :
    Decodes (some s) (b :: bs) ((proceed s b).1 ++ cs) := by
  unfold proceed at h ⊢
  split at h
  · next hdue => exact absurd hdue hs.due_ne_nil
  · next low high due hdue =>
      have hleast := hs.le_least
      rw [Started.least, hdue, List.foldl_cons] at hleast
      split_ifs at h ⊢ with hrange hlast
      · -- the least number is now the number itself, which is that of no plain character
        obtain rfl := List.isEmpty_iff.mp hlast
        rw [List.foldl_nil] at hleast
        exact .finish (not_isPlain_ofNat (by omega)) h
      · exact .next h
      · exact .broken (decodes_start h)

theorem isSound_start {b : UInt8} {s : Started} (h : (start b).2 = some s) : s.IsSound := by
  unfold start at h
  split at h
  · cases h
  · next hfirst =>
      obtain rfl := Option.some.inj h
      exact isSound_of_first_eq_inr hfirst

theorem isSound_proceed {s s' : Started} (hs : s.IsSound) {b : UInt8}
    (h : (proceed s b).2 = some s') : s'.IsSound := by
  unfold proceed at h
  split at h
  · exact isSound_start h
  · next low high due hdue =>
      have hleast := hs.le_least
      rw [Started.least, hdue, List.foldl_cons] at hleast
      split_ifs at h with hrange hmore
      · obtain rfl := Option.some.inj h
        exact ⟨fun hnil => hmore (List.isEmpty_iff.mpr hnil),
          Nat.le_trans hleast
            (foldl_le_foldl due (Nat.add_le_add_left (Nat.sub_le_sub_right hrange.1 _) _))⟩
      · exact isSound_start h

theorem decodes_decodeFrom (started : Option Started) (bs : List UInt8)
    (h : ∀ s, started = some s → s.IsSound) : Decodes started bs (decodeFrom started bs) := by
  -- on the octets, for whatever is under way; an octet only leaves something sound under way
  induction bs generalizing started with
  | nil =>
      cases started with
      | none => exact .done
      | some s => exact .cut s
  | cons b bs ih =>
      cases started with
      | none => exact decodes_start (ih _ fun _ => isSound_start)
      | some s => exact decodes_proceed (h s rfl) (ih _ fun _ => isSound_proceed (h s rfl))

theorem not_isPlain_replacement : ¬ IsPlain replacement := by
  decide

/-- A plain character is shown for its own octet only. -/
theorem Decodes.mem {started : Option Started} {bs : List UInt8} {cs : List Char}
    (h : Decodes started bs cs) {c : Char} (hc : IsPlain c) (hmem : c ∈ cs) :
    UInt8.ofNat c.toNat ∈ bs := by
  induction h with
  | done => cases hmem
  | cut => exact absurd (List.mem_singleton.mp hmem ▸ hc) not_isPlain_replacement
  | single _ _ ih =>
      rcases List.mem_cons.mp hmem with rfl | hmem
      · exact List.mem_cons_self
      · exact List.mem_cons_of_mem _ (ih hmem)
  | stray _ ih =>
      rcases List.mem_cons.mp hmem with rfl | hmem
      · exact absurd hc not_isPlain_replacement
      · exact List.mem_cons_of_mem _ (ih hmem)
  | start _ ih => exact List.mem_cons_of_mem _ (ih hmem)
  | finish hother _ ih =>
      rcases List.mem_cons.mp hmem with rfl | hmem
      · exact absurd hc hother
      · exact List.mem_cons_of_mem _ (ih hmem)
  | next _ ih => exact List.mem_cons_of_mem _ (ih hmem)
  | broken _ ih =>
      rcases List.mem_cons.mp hmem with rfl | hmem
      · exact absurd hc not_isPlain_replacement
      · exact ih hmem

theorem Decodes.eq_encode {started : Option Started} {bs : List UInt8} {cs : List Char}
    (h : Decodes started bs cs) (hplain : ∀ c ∈ cs, IsPlain c) :
    started = none ∧ bs = encode cs := by
  induction h with
  | done => exact ⟨rfl, rfl⟩
  | cut => exact absurd (hplain _ List.mem_cons_self) not_isPlain_replacement
  | single hc _ ih =>
      obtain ⟨-, hbs⟩ := ih fun c hc => hplain c (List.mem_cons_of_mem _ hc)
      exact ⟨rfl, by rw [hbs, encode_cons, utf8EncodeChar_of_lt hc, List.singleton_append]⟩
  | stray => exact absurd (hplain _ List.mem_cons_self) not_isPlain_replacement
  | start _ ih => exact absurd (ih hplain).1 nofun
  | finish hother => exact absurd (hplain _ List.mem_cons_self) hother
  | next _ ih => exact absurd (ih hplain).1 nofun
  | broken => exact absurd (hplain _ List.mem_cons_self) not_isPlain_replacement

end Text.Utf8

namespace RawText

open Text.Utf8

theorem octets_ofString (text : String) : (ofString text).octets = encode text.toList := rfl

@[simp] theorem text?_ofString (text : String) : (ofString text).text? = some text := by
  rw [text?, octets_ofString, toByteArray_encode]
  exact fromUTF8?_eq_some_iff.mpr rfl

theorem text?_eq_some_iff {raw : RawText} {text : String} :
    raw.text? = some text ↔ raw = ofString text := by
  constructor
  · intro h
    rw [text?, fromUTF8?_eq_some_iff, ← toByteArray_encode, List.toByteArray_inj] at h
    cases raw
    exact congrArg mk h
  · rintro rfl
    exact text?_ofString text

theorem ofString_inj {s t : String} : ofString s = ofString t ↔ s = t := by
  rw [← text?_eq_some_iff, text?_ofString, Option.some.injEq]

@[simp] theorem shown_ofString (text : String) : (ofString text).shown = text := by
  rw [shown, text?_ofString]

theorem ofString_append (s t : String) : ofString (s ++ t) = ofString s ++ ofString t := by
  rw [ofString, String.toList_append, encode_append]
  rfl

/-- Octets that are the UTF-8 form of a text. -/
def IsText (raw : RawText) : Prop :=
  ∃ text, raw = ofString text

theorem isText_iff {raw : RawText} : raw.IsText ↔ raw = ofString raw.shown := by
  constructor
  · rintro ⟨text, rfl⟩
    rw [shown_ofString]
  · exact fun h => ⟨_, h⟩

theorem text?_of_isText {raw : RawText} (h : raw.IsText) : raw.text? = some raw.shown :=
  text?_eq_some_iff.mpr (isText_iff.mp h)

theorem text?_eq_none_iff {raw : RawText} : raw.text? = none ↔ ¬ raw.IsText := by
  rw [Option.eq_none_iff_forall_ne_some]
  simp only [ne_eq, text?_eq_some_iff, IsText, not_exists]

instance (raw : RawText) : Decidable raw.IsText :=
  decidable_of_iff _ isText_iff.symm

/-- What is shown of octets is their text, or what they are read as character by character. -/
theorem shown_cases (raw : RawText) :
    raw.octets = encode raw.shown.toList ∨ Decodes none raw.octets raw.shown.toList := by
  by_cases h : raw.IsText
  · exact .inl (congrArg octets (isText_iff.mp h))
  · refine .inr ?_
    rw [shown, text?_eq_none_iff.mpr h]
    dsimp only
    rw [String.toList_ofList]
    exact decodes_decodeFrom none raw.octets nofun

theorem mem_octets_of_mem_shown {raw : RawText} {c : Char} (hc : IsPlain c)
    (h : c ∈ raw.shown.toList) : UInt8.ofNat c.toNat ∈ raw.octets := by
  rcases raw.shown_cases with hencode | hdecodes
  · rw [hencode]
    exact (mem_encode_iff hc.2).mpr h
  · exact hdecodes.mem hc h

theorem eq_ofString_of_plain {raw : RawText} (h : ∀ c ∈ raw.shown.toList, IsPlain c) :
    raw = ofString raw.shown := by
  rcases raw.shown_cases with hencode | hdecodes
  · exact congrArg mk hencode
  · exact congrArg mk (hdecodes.eq_encode h).2

end RawText

end Scaffold
