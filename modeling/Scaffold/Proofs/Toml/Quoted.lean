import Scaffold.Toml.Scalar
/-!
# Strings that are read back

A grammar says which texts stand for a string between quotation marks; what is written is such a
text in every style, and a text of the grammar is read as the string it stands for.
-/

namespace Scaffold.Toml

/-! ## The grammar -/

/-- The number of quotation marks in a row that stand for themselves. -/
def Style.spare (style : Style) : Nat :=
  if style.multiline then 2 else 0

/-- Which texts stand for a string in a style, after a number of quotation marks in a row. -/
inductive Spells (style : Style) : Nat → List Char → List Char → Prop where
  | nil {run : Nat} : Spells style run [] []
  | mark {run : Nat} {cs written : List Char} (hrun : run < style.spare)
      (h : Spells style (run + 1) cs written) :
      Spells style run (style.mark :: cs) (style.mark :: written)
  | plain {run : Nat} {c : Char} {cs written : List Char} (hmark : c ≠ style.mark)
      (hplain : stepPlain style c = some ([c], .plain)) (h : Spells style 0 cs written) :
      Spells style run (c :: cs) (c :: written)
  | letter {run : Nat} {c l : Char} {cs written : List Char} (hescapes : style.escapes = true)
      (hletter : escaped? l = some c) (h : Spells style 0 cs written) :
      Spells style run (c :: cs) ('\\' :: l :: written)
  | code {run : Nat} {c : Char} {cs digits written : List Char} (hescapes : style.escapes = true)
      (hlength : digits.length = 4) (hdigits : ∀ d ∈ digits, (hexValue? d).isSome)
      (hnumber : natOf 16 digits = c.toNat) (h : Spells style 0 cs written) :
      Spells style run (c :: cs) ('\\' :: 'u' :: (digits ++ written))

/-! ## Reading -/

/-- The state of reading after a number of quotation marks in a row. -/
def StringState.afterMarks : Nat → StringState
  | 0 => .plain
  | count + 1 => .marks (count + 1)

theorem closing?_afterMarks {style : Style} {run : Nat} (hrun : run ≤ style.spare)
    (next : Option Char) : closing? style (.afterMarks run) next = none := by
  cases run with
  | zero => rfl
  | succ run =>
      rw [Style.spare] at hrun
      cases hstyle : style.multiline with
      | false => simp [hstyle] at hrun
      | true =>
          rw [StringState.afterMarks, closing?, if_neg (by simp [hstyle]), if_neg]
          rintro ⟨hcount, -⟩
          simp only [hstyle, if_true] at hrun
          omega

theorem stepString_mark (style : Style) (run : Nat) :
    stepString style (.afterMarks run) style.mark = some ([], .marks (run + 1)) := by
  cases run <;> exact if_pos rfl

theorem stepString_of_ne {style : Style} {c : Char} (hc : c ≠ style.mark) (run : Nat) :
    stepString style (.afterMarks run) c =
      (stepPlain style c).map fun (out, next) => (List.replicate run style.mark ++ out, next) := by
  cases run with
  | zero =>
      rw [StringState.afterMarks, stepString, if_neg hc]
      exact Option.map_id'.symm
  | succ run => exact if_neg hc

section

variable {style : Style} {state next : StringState} {c : Char} {cs out rest : List Char}

theorem readString_of_closing (h : closing? style state rest.head? = some out) :
    readString style state rest = some (out, rest) := by
  cases rest with
  | nil =>
      rw [List.head?_nil] at h
      rw [readString, h]
      rfl
  | cons c rest =>
      rw [List.head?_cons] at h
      rw [readString, h]

theorem readString_of_step (hclosing : closing? style state (some c) = none)
    (hstep : stepString style state c = some (out, next)) :
    readString style state (c :: cs) =
      (readString style next cs).map fun (text, rest) => (out ++ text, rest) := by
  rw [readString, hclosing]
  simp only [hstep]

end

theorem charOf?_toNat (c : Char) : charOf? c.toNat = some c := by
  have hvalid : c.toNat.isValidChar := c.valid
  rw [charOf?, if_pos hvalid, Char.ofNat_toNat]

theorem stepEscape_letter {style : Style} {l c : Char} (h : escaped? l = some c) :
    stepEscape style l = some ([c], .plain) := by
  have hne : l ≠ 'u' ∧ l ≠ 'U' ∧ l ≠ ' ' ∧ l ≠ '\t' ∧ l ≠ '\r' ∧ l ≠ '\n' := by
    refine ⟨?_, ?_, ?_, ?_, ?_, ?_⟩ <;> (rintro rfl; simp [escaped?] at h)
  simp [stepEscape, hne, h]

theorem readString_code {style : Style} {digits : List Char} (hne : digits ≠ [])
    (hdigits : ∀ d ∈ digits, (hexValue? d).isSome) {value : Nat} {c : Char}
    (hnumber : digits.foldl (fun n d => n * 16 + (hexValue? d).getD 0) value = c.toNat)
    (cs : List Char) :
    readString style (.code digits.length value) (digits ++ cs) =
      (readString style .plain cs).map fun (text, rest) => (c :: text, rest) := by
  induction digits generalizing value with
  | nil => exact absurd rfl hne
  | cons d digits ih =>
      obtain ⟨hd, hrest⟩ := List.forall_mem_cons.mp hdigits
      obtain ⟨digit, hdigit⟩ := Option.isSome_iff_exists.mp hd
      rw [List.foldl_cons, hdigit, Option.getD_some] at hnumber
      cases digits with
      | nil =>
          have hstep : stepString style (.code 1 value) d = some ([c], .plain) := by
            rw [List.foldl_nil] at hnumber
            simp only [stepString, hdigit, Nat.le_refl, if_true, hnumber, charOf?_toNat,
              Option.map_some]
          exact readString_of_step rfl hstep
      | cons e digits =>
          have hstep : stepString style (.code (d :: e :: digits).length value) d =
              some ([], .code (e :: digits).length (value * 16 + digit)) := by
            simp [stepString, hdigit]
          rw [List.cons_append, readString_of_step rfl hstep,
            ih (List.cons_ne_nil _ _) hrest hnumber]
          exact Option.map_id'

section

variable {style : Style} {run : Nat} (hrun : run ≤ style.spare)

include hrun

theorem readString_mark (cs : List Char) :
    readString style (.afterMarks run) (style.mark :: cs) =
      readString style (.marks (run + 1)) cs := by
  rw [readString_of_step (closing?_afterMarks hrun _) (stepString_mark style run)]
  exact Option.map_id'

theorem readString_of_stepPlain {c : Char} {out : List Char} {next : StringState}
    (hc : c ≠ style.mark) (hplain : stepPlain style c = some (out, next)) (cs : List Char) :
    readString style (.afterMarks run) (c :: cs) =
      (readString style next cs).map fun (text, rest) =>
        (List.replicate run style.mark ++ out ++ text, rest) := by
  refine readString_of_step (closing?_afterMarks hrun _) ?_
  rw [stepString_of_ne hc, hplain]
  rfl

theorem readString_marks {rest : List Char} (hrest : rest.head? ≠ some style.mark) :
    readString style (.afterMarks run) (style.marks ++ rest) =
      some (List.replicate run style.mark, rest) := by
  cases hstyle : style.multiline with
  | false =>
      have hzero : run = 0 := by simpa [Style.spare, hstyle] using hrun
      subst hzero
      rw [Style.marks, hstyle, if_neg (by decide), List.singleton_append, readString_mark hrun]
      exact readString_of_closing (by simp [closing?, hstyle])
  | true =>
      -- three more marks close the string, and the last five of a row at the latest
      have hmore (count : Nat) (hcount : 0 < count) (hfew : count < 5) (cs : List Char) :
          readString style (.marks count) (style.mark :: cs) =
            readString style (.marks (count + 1)) cs := by
        have hclosing : closing? style (.marks count) (some style.mark) = none := by
          simp only [closing?, hstyle, not_true_eq_false, if_false, ne_eq, false_or]
          rw [if_neg]
          omega
        have hstep : stepString style (.marks count) style.mark = some ([], .marks (count + 1)) :=
          if_pos rfl
        rw [readString_of_step hclosing hstep]
        exact Option.map_id'
      have htwo : run ≤ 2 := by simpa [Style.spare, hstyle] using hrun
      rw [Style.marks, hstyle, if_pos rfl, List.cons_append, List.cons_append, List.cons_append,
        List.nil_append, readString_mark hrun, hmore _ (by omega) (by omega),
        hmore _ (by omega) (by omega)]
      refine readString_of_closing ?_
      simp [closing?, hstyle, hrest]

end

/-- A text of the grammar is read as the string it stands for. -/
theorem readString_of_spells {style : Style} (hbackslash : '\\' ≠ style.mark) {run : Nat}
    {cs written : List Char} (h : Spells style run cs written) (hrun : run ≤ style.spare)
    {rest : List Char} (hrest : rest.head? ≠ some style.mark) :
    readString style (.afterMarks run) (written ++ (style.marks ++ rest)) =
      some (List.replicate run style.mark ++ cs, rest) := by
  have hescape (hescapes : style.escapes = true) :
      stepPlain style '\\' = some ([], .escape) := by
    rw [stepPlain, if_pos ⟨rfl, hescapes⟩]
  induction h with
  | nil => rw [List.nil_append, readString_marks hrun hrest, List.append_nil]
  | mark hmore _ ih =>
      have hread := ih (Nat.succ_le_of_lt hmore)
      rw [List.cons_append, readString_mark hrun]
      refine hread.trans ?_
      rw [List.replicate_succ', List.append_assoc, List.singleton_append]
  | @plain run c cs written hmark hplain _ ih =>
      have hread : readString style .plain (written ++ (style.marks ++ rest)) = some (cs, rest) :=
        ih (Nat.zero_le _)
      rw [List.cons_append, readString_of_stepPlain hrun hmark hplain, hread]
      simp
  | @letter run c l cs written hescapes hletter _ ih =>
      have hread : readString style .plain (written ++ (style.marks ++ rest)) = some (cs, rest) :=
        ih (Nat.zero_le _)
      have hl : stepString style .escape l = some ([c], .plain) := stepEscape_letter hletter
      rw [List.cons_append, List.cons_append,
        readString_of_stepPlain hrun hbackslash (hescape hescapes), readString_of_step rfl hl, hread]
      simp
  | @code run c cs digits written hescapes hlength hdigits hnumber _ ih =>
      have hread : readString style .plain (written ++ (style.marks ++ rest)) = some (cs, rest) :=
        ih (Nat.zero_le _)
      have hu : stepString style .escape 'u' = some ([], .code digits.length 0) := by
        rw [hlength]
        rfl
      have hne : digits ≠ [] := by
        rintro rfl
        cases hlength
      rw [List.cons_append, List.cons_append, List.append_assoc,
        readString_of_stepPlain hrun hbackslash (hescape hescapes), readString_of_step rfl hu,
        readString_code hne hdigits hnumber, hread]
      simp

/-! ## Writing -/

theorem stepPlain_eq_self {style : Style} {c : Char} (hescape : c = '\\' → style.escapes = false)
    (hnewline : c = '\n' → style.multiline = true) (hcontrol : isControl c = true → c = '\n') :
    stepPlain style c = some ([c], .plain) := by
  have hreturn : c ≠ '\r' := by
    rintro rfl
    exact absurd (hcontrol rfl) (by decide)
  by_cases hc : c = '\n'
  · subst hc
    simp [stepPlain, hnewline rfl]
  · have hplain : isControl c = false := Bool.eq_false_iff.mpr (mt hcontrol hc)
    have hbackslash : ¬ (c = '\\' ∧ style.escapes = true) := by
      rintro ⟨hc, hescapes⟩
      rw [hescape hc] at hescapes
      cases hescapes
    rw [stepPlain, if_neg hbackslash, if_neg hc, if_neg hreturn, if_neg (by simp [hplain])]

theorem digits_control (n : Fin 128) :
    let digits := (Text.hexDigits n).map Char.toUpper
    let padded := List.replicate (4 - digits.length) '0' ++ digits
    padded.length = 4 ∧ (padded.all fun d => (hexValue? d).isSome) ∧ natOf 16 padded = n := by
  revert n
  decide +kernel

theorem toNat_lt_of_isControl {c : Char} (h : isControl c = true) : c.toNat < 128 := by
  simp only [isControl, Bool.or_eq_true, Bool.and_eq_true, decide_eq_true_eq] at h
  rcases h with ⟨h, -⟩ | rfl
  · omega
  · decide

theorem escapeChar_quote (style : Style) (run : Nat) :
    escapeChar style run '"' = if run < style.spare then ['"'] else ['\\', '"'] :=
  rfl

theorem nextRun_quote (style : Style) (run : Nat) :
    nextRun style run '"' = if run < style.spare then run + 1 else 0 := by
  by_cases hrun : run < style.spare
  · rw [if_pos hrun, nextRun, if_pos ⟨rfl, hrun⟩]
  · rw [if_neg hrun, nextRun, if_neg fun h => hrun h.2]

theorem nextRun_of_ne {style : Style} {c : Char} (hc : c ≠ '"') (run : Nat) :
    nextRun style run c = 0 := by
  rw [nextRun, if_neg fun h => hc h.1]

theorem escapeChar_cases {style : Style} {c : Char} (hc : c ≠ '"') (run : Nat) :
    (∃ l, escaped? l = some c ∧ escapeChar style run c = ['\\', l]) ∨
    (∃ digits, digits.length = 4 ∧ (∀ d ∈ digits, (hexValue? d).isSome) ∧
      natOf 16 digits = c.toNat ∧ escapeChar style run c = '\\' :: 'u' :: digits) ∨
    stepPlain style c = some ([c], .plain) ∧ escapeChar style run c = [c] := by
  unfold escapeChar
  split
  · exact absurd rfl hc
  · exact .inl ⟨'\\', rfl, rfl⟩
  · exact .inl ⟨'b', rfl, rfl⟩
  · exact .inl ⟨'t', rfl, rfl⟩
  · split
    · next hstyle => exact .inr (.inr ⟨stepPlain_eq_self (by simp) (by simp [hstyle]) (by simp), rfl⟩)
    · exact .inl ⟨'n', rfl, rfl⟩
  · exact .inl ⟨'f', rfl, rfl⟩
  · exact .inl ⟨'r', rfl, rfl⟩
  · next hbackslash _ _ hnewline _ _ =>
      split
      · next hcontrol =>
          obtain ⟨hlength, hdigits, hnumber⟩ :=
            digits_control ⟨c.toNat, toNat_lt_of_isControl hcontrol⟩
          exact .inr (.inl ⟨_, hlength, List.all_eq_true.mp hdigits, hnumber, rfl⟩)
      · next hcontrol =>
          refine .inr (.inr ⟨stepPlain_eq_self (fun h => absurd h hbackslash)
            (fun h => absurd h hnewline) (fun h => absurd h hcontrol), rfl⟩)

/-- A text with escapes stands for the string. -/
theorem spells_escapeText {style : Style} (hescapes : style.escapes = true)
    (hmark : style.mark = '"') (cs : List Char) (run : Nat) :
    Spells style run cs (escapeText style run cs) := by
  induction cs generalizing run with
  | nil => exact .nil
  | cons c cs ih =>
      rw [escapeText]
      by_cases hc : c = '"'
      · subst hc
        rw [escapeChar_quote, nextRun_quote]
        split
        · next hrun => exact hmark ▸ Spells.mark hrun (ih (run + 1))
        · exact .letter hescapes rfl (ih 0)
      · rw [nextRun_of_ne hc]
        rcases @escapeChar_cases style c hc run with
          ⟨l, hl, heq⟩ | ⟨digits, hlength, hdigits, hnumber, heq⟩ | ⟨hplain, heq⟩
        · rw [heq]
          exact .letter hescapes hl (ih 0)
        · rw [heq]
          exact .code hescapes hlength hdigits hnumber (ih 0)
        · rw [heq]
          exact .plain (hmark ▸ hc) hplain (ih 0)

theorem le_longestRun_go (x : Char) (current : Nat) (cs : List Char) :
    current ≤ longestRun.go x current cs := by
  induction cs generalizing current with
  | nil => exact Nat.le_refl current
  | cons c cs ih =>
      rw [longestRun.go]
      split
      · exact Nat.le_trans (Nat.le_succ current) (ih _)
      · exact Nat.le_max_left _ _

/-- A text stands for itself in a style that it suits. -/
theorem spells_self {style : Style} {cs : List Char} {run : Nat}
    (hescape : '\\' ∈ cs → style.escapes = false) (hnewline : '\n' ∈ cs → style.multiline = true)
    (hcontrol : hasControl cs = false) (hrun : longestRun.go style.mark run cs ≤ style.spare) :
    Spells style run cs cs := by
  induction cs generalizing run with
  | nil => exact .nil
  | cons c cs ih =>
      rw [hasControl, List.any_cons, Bool.or_eq_false_iff] at hcontrol
      obtain ⟨hfirst, hrest⟩ := hcontrol
      have htail {run : Nat} (h : longestRun.go style.mark run cs ≤ style.spare) :
          Spells style run cs cs :=
        ih (fun h => hescape (List.mem_cons_of_mem _ h))
          (fun h => hnewline (List.mem_cons_of_mem _ h)) hrest h
      rw [longestRun.go] at hrun
      by_cases hc : c = style.mark
      · subst hc
        rw [if_pos rfl] at hrun
        exact .mark (Nat.le_trans (le_longestRun_go _ _ _) hrun) (htail hrun)
      · rw [if_neg hc] at hrun
        refine .plain hc (stepPlain_eq_self ?_ ?_ ?_) (htail (Nat.le_trans (Nat.le_max_right _ _) hrun))
        · rintro rfl
          exact hescape List.mem_cons_self
        · rintro rfl
          exact hnewline List.mem_cons_self
        · intro h
          simpa [h] using hfirst

/-! ## Whole strings -/

theorem Spells.of_head {style : Style} {run : Nat} {cs written : List Char}
    (h : Spells style run cs written) {x : Char} (hx : written.head? = some x) :
    x = '\\' ∨ x = style.mark ∧ run < style.spare ∨
      x ≠ style.mark ∧ x ∈ cs ∧ stepPlain style x = some ([x], .plain) := by
  cases h with
  | nil => cases hx
  | mark hrun =>
      obtain rfl := Option.some.inj hx
      exact .inr (.inl ⟨rfl, hrun⟩)
  | plain hmark hplain =>
      obtain rfl := Option.some.inj hx
      exact .inr (.inr ⟨hmark, List.mem_cons_self, hplain⟩)
  | letter => exact .inl (Option.some.inj hx).symm
  | code => exact .inl (Option.some.inj hx).symm

theorem styleFor_mem (cs : List Char) :
    styleFor cs ∈ [Style.basic, .literal, .multilineBasic, .multilineLiteral] := by
  unfold styleFor
  dsimp only
  split
  · next hfind => exact List.mem_of_find?_eq_some hfind
  · split <;> decide

theorem suits_styleFor {cs : List Char} (h : (styleFor cs).escapes = false) :
    suits (styleFor cs) cs = true := by
  unfold styleFor at h ⊢
  dsimp only at h ⊢
  split at h
  · next hfind => exact List.find?_some (p := fun style => suits style cs) hfind
  · split at h <;> cases h

def writtenIn (style : Style) (cs : List Char) : List Char :=
  if style.escapes then escapeText style 0 cs else cs

theorem writeIn_eq (style : Style) (cs : List Char) :
    writeIn style cs =
      style.marks ++ (if style.multiline && cs.contains '\n' then ['\n'] else []) ++
        writtenIn style cs ++ style.marks :=
  rfl

theorem spells_writtenIn_styleFor (cs : List Char) :
    Spells (styleFor cs) 0 cs (writtenIn (styleFor cs) cs) := by
  have hstyle := styleFor_mem cs
  have hsuits := @suits_styleFor cs
  generalize styleFor cs = style at hstyle hsuits ⊢
  cases hescapes : style.escapes with
  | true =>
      have hmark : style.mark = '"' := by
        simp only [List.mem_cons, List.not_mem_nil, or_false] at hstyle
        rcases hstyle with rfl | rfl | rfl | rfl <;> first | rfl | cases hescapes
      rw [writtenIn, if_pos hescapes]
      exact spells_escapeText hescapes hmark cs 0
  | false =>
      have hsuits := hsuits hescapes
      simp only [suits, hescapes, Bool.and_eq_true, Bool.not_eq_true', Bool.false_and, Bool.not_false,
        Bool.or_eq_true, decide_eq_true_eq] at hsuits
      obtain ⟨⟨⟨hcontrol, -⟩, hrun⟩, hnewline⟩ := hsuits
      rw [writtenIn, if_neg (by simp [hescapes])]
      refine spells_self (fun _ => hescapes) (fun hmem => ?_) hcontrol hrun
      rcases hnewline with hmultiline | hnone
      · exact hmultiline
      · simp [hmem] at hnone

theorem dropNewline_eq_self {cs : List Char} (hnewline : cs.head? ≠ some '\n')
    (hreturn : cs.head? ≠ some '\r') : dropNewline cs = cs := by
  unfold dropNewline
  split
  · simp at hnewline
  · simp at hreturn
  · rfl

theorem head?_marks_append (style : Style) (cs : List Char) :
    (style.marks ++ cs).head? = some style.mark := by
  unfold Style.marks
  split <;> rfl

theorem readQuoted_of_multiline {style : Style}
    (hstyle : style = .multilineBasic ∨ style = .multilineLiteral) (cs : List Char) :
    readQuoted (style.marks ++ cs) = readString style .plain (dropNewline cs) := by
  rcases hstyle with rfl | rfl <;> rfl

theorem readQuoted_of_line {style : Style} (hstyle : style = .basic ∨ style = .literal)
    {cs : List Char} (hcs : ¬ [style.mark, style.mark] <+: cs) :
    readQuoted (style.marks ++ cs) = readString style .plain cs := by
  have hne (more : List Char) : cs ≠ style.mark :: style.mark :: more := by
    rintro rfl
    exact hcs (List.prefix_append [style.mark, style.mark] more)
  rcases hstyle with rfl | rfl
  · exact readQuoted.eq_2 cs fun more => hne more
  · exact readQuoted.eq_4 cs fun more => hne more

section

variable {style : Style} {cs written rest : List Char} (h : Spells style 0 cs written)
  (hnext : rest.head? ≠ some style.mark)

include h hnext

theorem readQuoted_spelled_line (hstyle : style = .basic ∨ style = .literal) :
    readQuoted (style.marks ++ (written ++ (style.marks ++ rest))) = some (cs, rest) := by
  have hbackslash : '\\' ≠ style.mark := by rcases hstyle with rfl | rfl <;> decide
  have hmarks : style.marks = [style.mark] := by rcases hstyle with rfl | rfl <;> rfl
  have hspare : style.spare = 0 := by rcases hstyle with rfl | rfl <;> rfl
  -- a second quotation mark is the closing one, and no third one follows
  have hopen : ¬ [style.mark, style.mark] <+: written ++ (style.marks ++ rest) := by
    cases written with
    | nil =>
        rw [hmarks, List.nil_append, List.singleton_append, List.cons_prefix_cons]
        rintro ⟨-, more, rfl⟩
        exact hnext rfl
    | cons x written =>
        have hx : x ≠ style.mark := by
          rcases h.of_head rfl with rfl | ⟨-, hrun⟩ | ⟨hx, -⟩
          · exact hbackslash
          · rw [hspare] at hrun
            exact absurd hrun (Nat.lt_irrefl 0)
          · exact hx
        rw [List.cons_append, List.cons_prefix_cons]
        exact fun hmark => hx hmark.1.symm
  rw [readQuoted_of_line hstyle hopen]
  exact readString_of_spells hbackslash h (Nat.zero_le _) hnext

theorem readQuoted_spelled_lines (hstyle : style = .multilineBasic ∨ style = .multilineLiteral) :
    readQuoted (style.marks ++ ((if cs.contains '\n' then ['\n'] else []) ++
      (written ++ (style.marks ++ rest)))) = some (cs, rest) := by
  have hbackslash : '\\' ≠ style.mark := by rcases hstyle with rfl | rfl <;> decide
  have hread : readString style .plain (written ++ (style.marks ++ rest)) = some (cs, rest) :=
    readString_of_spells hbackslash h (Nat.zero_le _) hnext
  rw [readQuoted_of_multiline hstyle]
  split
  · exact hread
  · next hnone =>
      -- nothing is dropped in front of a string without newlines
      have hhead {x : Char} (hx : x = '\n' ∨ x = '\r') :
          (written ++ (style.marks ++ rest)).head? ≠ some x := by
        have hmark : style.mark ≠ x := by
          rcases hstyle with rfl | rfl <;> rcases hx with rfl | rfl <;> decide
        cases written with
        | nil =>
            rw [List.nil_append, head?_marks_append]
            exact fun heq => hmark (Option.some.inj heq)
        | cons y written =>
            rw [List.cons_append, List.head?_cons, ne_eq, Option.some.injEq]
            rintro rfl
            rcases h.of_head rfl with rfl | ⟨rfl, -⟩ | ⟨-, hmem, hplain⟩
            · rcases hx with hx | hx <;> cases hx
            · exact hmark rfl
            · rcases hx with rfl | rfl
              · exact hnone (List.contains_iff_mem.mpr hmem)
              · simp [stepPlain] at hplain
      rw [List.nil_append, dropNewline_eq_self (hhead (.inl rfl)) (hhead (.inr rfl)), hread]

end

/-- A string that is written is read again, whatever follows it but a quotation mark. -/
theorem readQuoted_writeQuoted (cs : List Char) {rest : List Char}
    (hrest : rest.head? ≠ some '"' ∧ rest.head? ≠ some '\'') :
    readQuoted (writeQuoted cs ++ rest) = some (cs, rest) := by
  have hspells := spells_writtenIn_styleFor cs
  have hstyle := styleFor_mem cs
  rw [writeQuoted, writeIn_eq]
  generalize styleFor cs = style at hspells hstyle
  simp only [List.mem_cons, List.not_mem_nil, or_false] at hstyle
  simp only [List.append_assoc]
  rcases hstyle with rfl | rfl | rfl | rfl
  · exact readQuoted_spelled_line hspells hrest.1 (.inl rfl)
  · exact readQuoted_spelled_line hspells hrest.2 (.inr rfl)
  · exact readQuoted_spelled_lines hspells hrest.1 (.inl rfl)
  · exact readQuoted_spelled_lines hspells hrest.2 (.inr rfl)

theorem head?_writeQuoted (cs rest : List Char) :
    (writeQuoted cs ++ rest).head? = some '"' ∨ (writeQuoted cs ++ rest).head? = some '\'' := by
  have hstyle := styleFor_mem cs
  simp only [List.mem_cons, List.not_mem_nil, or_false] at hstyle
  rw [writeQuoted, writeIn_eq, List.append_assoc, List.append_assoc, List.append_assoc,
    head?_marks_append]
  rcases hstyle with h | h | h | h <;> rw [h] <;> decide

end Scaffold.Toml
