import Scaffold.Template.Token
/-!
# The tokens of a template, part by part

A part that ends with a closing delimiter is read in the same way whatever follows it, so the tokens
of a template are those of its parts; the lines on which tokens start are left out.
-/

namespace Scaffold.Template.Lexer

open Text

def opens : List Char → Bool
  | '\x7b' :: c :: _ => c = '\x7b' || c = '%' || c = '#'
  | _ => false

def isPlain : List Char → Bool
  | [] => true
  | c :: cs => !opens (c :: cs) && isPlain cs

theorem isPlain_cons {c : Char} {cs : List Char} :
    isPlain (c :: cs) = true ↔ opens (c :: cs) = false ∧ isPlain cs = true := by
  rw [isPlain, Bool.and_eq_true, Bool.not_eq_true']

theorem opens_cons_of_ne {c : Char} (hc : c ≠ '\x7b') (cs : List Char) :
    opens (c :: cs) = false := by
  unfold opens
  split
  · next heq => exact absurd (List.cons.inj heq).1 hc
  · rfl

theorem opens_cons_cons (b c : Char) (cs ds : List Char) :
    opens (b :: c :: cs) = opens (b :: c :: ds) := by
  by_cases hb : b = '\x7b'
  · subst hb
    rfl
  · rw [opens_cons_of_ne hb, opens_cons_of_ne hb]

theorem opens_cons_append {c : Char} {cs ds : List Char} (hlast : (c :: cs).getLast? ≠ some '\x7b') :
    opens (c :: (cs ++ ds)) = opens (c :: cs) := by
  cases cs with
  | nil =>
      have hc : c ≠ '\x7b' := by simpa using hlast
      rw [opens_cons_of_ne hc, opens_cons_of_ne hc]
  | cons d cs => exact opens_cons_cons c d (cs ++ ds) cs

theorem getLast?_ne_of_cons {c d : Char} {cs : List Char} (h : (c :: cs).getLast? ≠ some d) :
    cs.getLast? ≠ some d := by
  cases cs with
  | nil => simp
  | cons e cs => simpa using h

theorem isPlain_append {cs ds : List Char} (hcs : isPlain cs = true) (hds : isPlain ds = true)
    (hlast : cs.getLast? ≠ some '\x7b') : isPlain (cs ++ ds) = true := by
  induction cs with
  | nil => exact hds
  | cons c cs ih =>
      obtain ⟨hopens, hcs⟩ := isPlain_cons.mp hcs
      refine isPlain_cons.mpr ⟨?_, ih hcs (getLast?_ne_of_cons hlast)⟩
      rw [← hopens]
      exact opens_cons_append hlast

/-- A line end keeps the texts around it apart, also after a brace. -/
theorem isPlain_append_newline {cs ds : List Char} (hcs : isPlain cs = true)
    (hds : isPlain ds = true) : isPlain (cs ++ '\n' :: ds) = true := by
  induction cs with
  | nil => exact isPlain_cons.mpr ⟨opens_cons_of_ne (by decide) ds, hds⟩
  | cons c cs ih =>
      obtain ⟨hopens, hcs⟩ := isPlain_cons.mp hcs
      refine isPlain_cons.mpr ⟨?_, ih hcs⟩
      cases cs with
      | nil =>
          by_cases hc : c = '\x7b'
          · subst hc
            rfl
          · exact opens_cons_of_ne hc _
      | cons d cs => exact (opens_cons_cons c d _ cs).trans hopens

theorem isPlain_of_append {cs ds : List Char} (h : isPlain (cs ++ ds) = true) :
    isPlain ds = true := by
  induction cs with
  | nil => exact h
  | cons c cs ih => exact ih (isPlain_cons.mp h).2

theorem cutAtDelimiter_of_opens {cs : List Char} (h : opens cs = true) :
    cutAtDelimiter cs = ([], cs) := by
  unfold opens at h
  split at h
  · have hdelimiter := by simpa [or_assoc] using h
    rw [cutAtDelimiter, if_pos hdelimiter]
  · cases h

theorem cutAtDelimiter_cons {c : Char} {cs : List Char} (h : opens (c :: cs) = false) :
    cutAtDelimiter (c :: cs) = (c :: (cutAtDelimiter cs).1, (cutAtDelimiter cs).2) := by
  by_cases hc : c = '\x7b'
  · subst hc
    cases cs with
    | nil => rfl
    | cons d cs =>
        have hother : ¬ (d = '\x7b' ∨ d = '%' ∨ d = '#') := by simpa [opens, and_assoc] using h
        rw [cutAtDelimiter, if_neg hother]
  · rw [cutAtDelimiter]
    intro d rest heq
    exact absurd heq hc

theorem cutAtDelimiter_of_isPlain {cs : List Char} (h : isPlain cs = true) :
    cutAtDelimiter cs = (cs, []) := by
  induction cs with
  | nil => rfl
  | cons c cs ih =>
      obtain ⟨hopens, hcs⟩ := isPlain_cons.mp h
      rw [cutAtDelimiter_cons hopens, ih hcs]

/-- The first delimiter after a plain text is the one that follows it, unless the text ends with a
brace that belongs to a delimiter. -/
theorem cutAtDelimiter_append {cs rest : List Char} (h : isPlain cs = true)
    (hlast : cs.getLast? ≠ some '\x7b') (hrest : opens rest = true) :
    cutAtDelimiter (cs ++ rest) = (cs, rest) := by
  induction cs with
  | nil => exact cutAtDelimiter_of_opens hrest
  | cons c cs ih =>
      obtain ⟨hopens, hcs⟩ := isPlain_cons.mp h
      rw [List.cons_append, cutAtDelimiter_cons (by rw [opens_cons_append hlast, hopens]),
        ih hcs (getLast?_ne_of_cons hlast)]

/-- A text without the blanks that the delimiter before it removes. -/
def leading (control : Control) (cs : List Char) : List Char :=
  if control = .remove then cs.dropWhile isBlank else cs

def shown (before after : Control) (cs : List Char) : List Char :=
  if after = .remove then dropEndWhile isBlank (leading before cs) else leading before cs

def textTokens (cs : List Char) : List Token :=
  if cs.isEmpty then [] else [.text cs]

theorem isPlain_leading {control : Control} {cs : List Char} (h : isPlain cs = true) :
    isPlain (leading control cs) = true := by
  unfold leading
  split
  · rw [← List.takeWhile_append_dropWhile (p := isBlank) (l := cs)] at h
    exact isPlain_of_append h
  · exact h

theorem leading_append {control : Control} {cs rest : List Char} (hrest : opens rest = true) :
    leading control (cs ++ rest) = leading control cs ++ rest := by
  unfold leading
  split
  · -- the brace of the delimiter is not blank
    have hstop : rest.dropWhile isBlank = rest := by
      unfold opens at hrest
      split at hrest
      · rfl
      · cases hrest
    rw [List.dropWhile_append, hstop]
    split
    · next hempty => rw [List.isEmpty_iff.mp hempty, List.nil_append]
    · rfl
  · rfl

theorem getLast?_leading {control : Control} {cs : List Char} {c : Char}
    (h : cs.getLast? ≠ some c) : (leading control cs).getLast? ≠ some c := by
  unfold leading
  split
  · intro hlast
    refine h ?_
    obtain ⟨before, hbefore⟩ := List.dropWhile_suffix (p := isBlank) (l := cs)
    rw [← hbefore, List.getLast?_append, hlast]
    rfl
  · exact h

theorem textTokens_map (cs : List Char) (line : Nat) :
    (if cs.isEmpty then [] else [(⟨.text cs, line⟩ : Lexeme)]).map (·.token) = textTokens cs := by
  unfold textTokens
  split <;> rfl

theorem run_text_end (fuel line : Nat) {control : Control} {cs : List Char}
    (hcs : isPlain cs = true) :
    (run (fuel + 1) (.text control) line cs).map (·.token) =
      textTokens (shown control .keep cs) := by
  have hcut : cutAtDelimiter (if control = .remove then cs.dropWhile isBlank else cs) =
      (leading control cs, []) :=
    cutAtDelimiter_of_isPlain (isPlain_leading hcs)
  rw [run, hcut]
  exact textTokens_map _ _

theorem run_text_delimiter (fuel line : Nat) {control : Control}
    {cs before rest inner : List Char} {start : Token} {mode : Mode}
    (hcut : cutAtDelimiter (leading control cs) = (before, rest)) (hopens : opens rest = true)
    (hdelimiter : delimiter rest = (some start, mode, inner)) :
    ∃ next, (run (fuel + 1) (.text control) line cs).map (·.token) =
      textTokens (if leadingControl rest = .remove then dropEndWhile isBlank before else before) ++
        start :: (run fuel mode next inner).map (·.token) := by
  change cutAtDelimiter (if control = .remove then cs.dropWhile isBlank else cs) = _ at hcut
  cases rest with
  | nil => cases hopens
  | cons c rest =>
      rw [run, hcut]
      dsimp only
      rw [hdelimiter]
      simp only [List.map_append, textTokens_map]
      exact ⟨_, List.append_assoc _ _ _⟩

/-- Reading a part in a mode gives tokens and ends in another mode, whatever text follows it. -/
def Reads (mode : Mode) (part : List Char) (tokens : List Token) (after : Mode) : Prop :=
  ∃ steps, steps ≤ part.length ∧ ∀ fuel line rest, ∃ next,
    (run (fuel + steps) mode line (part ++ rest)).map (·.token) =
      tokens ++ (run fuel after next rest).map (·.token)

theorem Reads.append {mode between after : Mode} {part other : List Char}
    {tokens more : List Token} (hpart : Reads mode part tokens between)
    (hother : Reads between other more after) :
    Reads mode (part ++ other) (tokens ++ more) after := by
  obtain ⟨n, hn, hpart⟩ := hpart
  obtain ⟨k, hk, hother⟩ := hother
  refine ⟨k + n, by rw [List.length_append]; omega, fun fuel line rest => ?_⟩
  obtain ⟨next, hnext⟩ := hpart (fuel + k) line (other ++ rest)
  obtain ⟨last, hlast⟩ := hother fuel next rest
  refine ⟨last, ?_⟩
  rw [← Nat.add_assoc, List.append_assoc, hnext, hlast, List.append_assoc]

theorem Reads.append_toList {mode between after : Mode} {part other : String}
    {tokens more : List Token} (hpart : Reads mode part.toList tokens between)
    (hother : Reads between other.toList more after) :
    Reads mode (part ++ other).toList (tokens ++ more) after := by
  rw [String.toList_append]
  exact hpart.append hother

/-- The text before a delimiter and the tokens from the delimiter to its end. -/
theorem Reads.delimited {control sign : Control} {text tag inner : List Char} {start : Token}
    {tokens : List Token} {mode after : Mode} (hplain : isPlain text = true)
    (hlast : text.getLast? ≠ some '\x7b')
    (htag : ∀ rest, opens (tag ++ rest) = true ∧ leadingControl (tag ++ rest) = sign ∧
      delimiter (tag ++ rest) = (some start, mode, inner ++ rest))
    (hlength : inner.length < tag.length) (hinner : Reads mode inner tokens after) :
    Reads (.text control) (text ++ tag) (textTokens (shown control sign text) ++ start :: tokens)
      after := by
  obtain ⟨steps, hsteps, hinner⟩ := hinner
  refine ⟨steps + 1, by rw [List.length_append]; omega, fun fuel line rest => ?_⟩
  obtain ⟨hopens, hsign, hdelimiter⟩ := htag rest
  have hcut : cutAtDelimiter (leading control (text ++ (tag ++ rest))) =
      (leading control text, tag ++ rest) := by
    rw [leading_append hopens]
    exact cutAtDelimiter_append (isPlain_leading hplain) (getLast?_leading hlast) hopens
  obtain ⟨next, hrun⟩ := run_text_delimiter (fuel + steps) line hcut hopens hdelimiter
  obtain ⟨last, htokens⟩ := hinner fuel next rest
  refine ⟨last, ?_⟩
  rw [← Nat.add_assoc, List.append_assoc, hrun, hsign, htokens]
  simp [shown]

theorem tokens_lexemes {part text : List Char} {tokens : List Token} {control : Control}
    (hpart : Reads (.text .keep) part tokens (.text control)) (htext : isPlain text = true) :
    (lexemes (part ++ text)).map (·.token) =
      tokens ++ textTokens (shown control .keep text) := by
  obtain ⟨steps, hsteps, hpart⟩ := hpart
  obtain ⟨next, hnext⟩ := hpart (part.length - steps + text.length + 1) 1 text
  have hfuel : (part ++ text).length + 1 = part.length - steps + text.length + 1 + steps := by
    rw [List.length_append]
    omega
  rw [lexemes, hfuel, hnext, run_text_end _ _ htext]

theorem tokens_lexemes_of_isPlain {text : List Char} (h : isPlain text = true) :
    (lexemes text).map (·.token) = textTokens text :=
  run_text_end _ _ h

def isName : List Char → Bool
  | [] => false
  | c :: cs => isNameStart c && cs.all isNamePart

theorem isNamePart_of_isNameStart {c : Char} (h : isNameStart c = true) : isNamePart c = true := by
  unfold isNameStart at h
  unfold isNamePart Char.isAlphanum
  grind

theorem isDigit_of_isNameStart {c : Char} (h : isNameStart c = true) : c.isDigit = false := by
  by_cases hc : c = '_'
  · subst hc
    rfl
  · unfold isNameStart Char.isAlpha Char.isUpper Char.isLower at h
    unfold Char.isDigit
    grind

theorem mark?_of_isNameStart {c : Char} (cs : List Char) (h : isNameStart c = true) :
    mark? (c :: cs) = none := by
  unfold mark?
  split <;> first | rfl | (next heq => cases heq; cases h)

theorem closing?_of_isNameStart {c : Char} (delimiter : Char) (ds cs : List Char)
    (hdelimiter : delimiter ≠ c) (h : isNameStart c = true) :
    closing? (delimiter :: ds) (c :: cs) = none := by
  unfold closing?
  rw [show afterPrefix? (delimiter :: ds) (c :: cs) = none by simp [afterPrefix?, hdelimiter]]
  dsimp only
  split <;> first | rfl | (next heq => cases heq; cases h)

theorem token_name {name rest : List Char} (hname : isName name = true)
    (hrest : ∀ c ∈ rest.head?, isNamePart c = false) :
    token (name ++ rest) = (.name (String.ofList name), rest) := by
  cases name with
  | nil => cases hname
  | cons c cs =>
      obtain ⟨hfirst, hcs⟩ := Bool.and_eq_true_iff.mp hname
      have hpart : ∀ d ∈ c :: cs, isNamePart d = true := by
        intro d hd
        rcases List.mem_cons.mp hd with rfl | hd
        · exact isNamePart_of_isNameStart hfirst
        · exact List.all_eq_true.mp hcs d hd
      have hquote : ¬ (c = '"' ∨ c = '\'') := by
        rintro (rfl | rfl) <;> cases hfirst
      have htake : rest.takeWhile isNamePart = [] := by
        cases rest with
        | nil => rfl
        | cons d rest => rw [List.takeWhile_cons, hrest d rfl]; rfl
      have hdrop : rest.dropWhile isNamePart = rest := by
        cases rest with
        | nil => rfl
        | cons d rest => rw [List.dropWhile_cons, hrest d rfl]; rfl
      rw [List.cons_append, token, mark?_of_isNameStart _ hfirst]
      dsimp only
      rw [if_neg hquote, if_neg (by rw [isDigit_of_isNameStart hfirst]; exact Bool.false_ne_true),
        if_pos hfirst, ← List.cons_append, List.takeWhile_append_of_pos hpart,
        List.dropWhile_append_of_pos hpart, htake, hdrop, List.append_nil]

theorem isSpace_of_isNameStart {c : Char} (h : isNameStart c = true) : isSpace c = false := by
  rw [Bool.eq_false_iff]
  intro hspace
  simp only [isSpace, Bool.or_eq_true, decide_eq_true_eq] at hspace
  rcases hspace with (((rfl | rfl) | rfl) | rfl) | rfl <;> cases h

theorem run_token {mode : Mode} (hmode : mode = .expr ∨ mode = .stmt) (fuel line : Nat)
    (cs : List Char) {start rest : List Char} {t : Token} (hstart : cs.dropWhile isSpace = start)
    (hne : start ≠ []) (hclosing : closing? mode.delimiter start = none)
    (htoken : token start = (t, rest)) :
    ∃ next, (run (fuel + 1) mode line cs).map (·.token) =
      t :: (run fuel mode next rest).map (·.token) := by
  obtain ⟨c, start, rfl⟩ := List.exists_cons_of_ne_nil hne
  rcases hmode with rfl | rfl
  all_goals
    rw [run, hstart]
    · dsimp only
      rw [hclosing, htoken]
      exact ⟨_, rfl⟩
    · simp

theorem run_closing {mode : Mode} (hmode : mode = .expr ∨ mode = .stmt) (fuel line : Nat)
    (cs : List Char) {start rest : List Char} {control : Control} (hstart : cs.dropWhile isSpace = start)
    (hclosing : closing? mode.delimiter start = some (control, rest)) :
    ∃ next, (run (fuel + 1) mode line cs).map (·.token) =
      mode.endToken :: (run fuel (.text control) next rest).map (·.token) := by
  cases start with
  | nil => rcases hmode with rfl | rfl <;> cases hclosing
  | cons c start =>
      rcases hmode with rfl | rfl
      all_goals
        rw [run, hstart]
        · dsimp only
          rw [hclosing]
          exact ⟨_, rfl⟩
        · simp

theorem run_name {mode : Mode} (hmode : mode = .expr ∨ mode = .stmt) (fuel line : Nat)
    (cs : List Char) {name rest : List Char} (hname : isName name = true)
    (hstart : cs.dropWhile isSpace = (name ++ rest).dropWhile isSpace)
    (hrest : ∀ c ∈ rest.head?, isNamePart c = false) :
    ∃ next, (run (fuel + 1) mode line cs).map (·.token) =
      .name (String.ofList name) :: (run fuel mode next rest).map (·.token) := by
  have htoken := token_name hname hrest
  cases name with
  | nil => cases hname
  | cons c name =>
      have hfirst := (Bool.and_eq_true_iff.mp hname).1
      rw [List.cons_append, List.dropWhile_cons, isSpace_of_isNameStart hfirst] at hstart
      refine run_token hmode fuel line cs hstart (List.cons_ne_nil _ _) ?_ htoken
      rcases hmode with rfl | rfl
      · exact closing?_of_isNameStart _ _ _ (by rintro rfl; cases hfirst) hfirst
      · exact closing?_of_isNameStart _ _ _ (by rintro rfl; cases hfirst) hfirst

theorem reads_path {object field : List Char} (hobject : isName object = true)
    (hfield : isName field = true) :
    Reads .expr (' ' :: (object ++ '.' :: (field ++ [' ', '\x7d', '\x7d'])))
      [.name (String.ofList object), .mark .dot, .name (String.ofList field), .exprEnd]
      (.text .keep) := by
  refine ⟨4, by simp only [List.length_cons, List.length_append]; omega, fun fuel line rest => ?_⟩
  simp only [List.cons_append, List.append_assoc, List.nil_append]
  obtain ⟨atDot, hfirst⟩ := run_name (.inl rfl) (fuel + 3) line
    (' ' :: (object ++ '.' :: (field ++ ' ' :: '\x7d' :: '\x7d' :: rest))) hobject rfl
    (by simp; rfl)
  obtain ⟨atField, hdot⟩ := run_token (.inl rfl) (fuel + 2) atDot
    ('.' :: (field ++ ' ' :: '\x7d' :: '\x7d' :: rest)) rfl (List.cons_ne_nil _ _) rfl rfl
  obtain ⟨atEnd, hsecond⟩ := run_name (.inl rfl) (fuel + 1) atField
    (field ++ ' ' :: '\x7d' :: '\x7d' :: rest) hfield rfl (by simp; rfl)
  obtain ⟨next, hend⟩ := run_closing (.inl rfl) fuel atEnd
    (' ' :: '\x7d' :: '\x7d' :: rest) rfl rfl
  exact ⟨next, by rw [hfirst, hdot, hsecond, hend]; rfl⟩

theorem reads_text_path {control : Control} {text : List Char} {object field : String}
    (htext : isPlain text = true) (hlast : text.getLast? ≠ some '\x7b')
    (hobject : isName object.toList = true) (hfield : isName field.toList = true) :
    Reads (.text control)
      (text ++ ('\x7b' :: '\x7b' :: ' ' ::
        (object.toList ++ '.' :: (field.toList ++ [' ', '\x7d', '\x7d']))))
      (textTokens (shown control .keep text) ++
        [.exprStart, .name object, .mark .dot, .name field, .exprEnd])
      (.text .keep) := by
  have hpath := reads_path hobject hfield
  rw [String.ofList_toList, String.ofList_toList] at hpath
  refine Reads.delimited htext hlast (fun rest => ?_) ?_ hpath
  · exact ⟨rfl, rfl, rfl⟩
  · simp

end Scaffold.Template.Lexer
