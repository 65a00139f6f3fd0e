import Scaffold.Project
import Scaffold.Proofs.Filesystem.Store
import Scaffold.Proofs.Text.Cutting
import Scaffold.Proofs.Text.Splitting
import Scaffold.Proofs.Text.Trimming
/-!
# The module path of a project

A line declares a module if `module` is its first word and something is left of its second part
without blanks, comment and quotes; the first line that does so gives the module path, whatever the
lines around it are.
-/

namespace Scaffold.Project

open Text

def word : List Char := ['m', 'o', 'd', 'u', 'l', 'e']

/-! ## Comments -/

/-- A text goes on with a comment, which begins at the first two slashes, or with nothing. -/
def IsComment (statement comment : List Char) : Prop :=
  comment = [] ∧ ¬ ['/', '/'] <:+: statement ∨
    ['/', '/'] <+: comment ∧ ¬ ['/', '/'] <:+: statement ++ ['/']

theorem ne_slash_of_isBlank {c : Char} (h : isBlank c = true) : c ∉ ['/', '/'] := by
  intro hslash
  obtain rfl : c = '/' := by simpa using hslash
  cases h

theorem beforeComment_eq_iff {cs statement : List Char} :
    beforeComment cs = statement ↔
      ∃ comment, cs = statement ++ comment ∧ IsComment statement comment := by
  have hne : ['/', '/'] ≠ [] := List.cons_ne_nil _ _
  constructor
  · intro h
    rw [beforeComment] at h
    cases hcut : cutAt? ['/', '/'] cs with
    | none =>
        rw [hcut] at h
        obtain rfl : cs = statement := h
        exact ⟨[], (List.append_nil cs).symm, .inl ⟨rfl, (cutAt?_eq_none_iff hne).mp hcut⟩⟩
    | some parts =>
        obtain ⟨before, rest⟩ := parts
        rw [hcut] at h
        obtain rfl : before = statement := h
        obtain ⟨hcs, hfirst⟩ := (cutAt?_eq_some_iff hne).mp hcut
        exact ⟨['/', '/'] ++ rest, by rw [hcs, List.append_assoc],
          .inr ⟨List.prefix_append _ _, hfirst⟩⟩
  · rintro ⟨comment, rfl, ⟨rfl, hnone⟩ | ⟨⟨rest, rfl⟩, hfirst⟩⟩
    · rw [beforeComment, List.append_nil, (cutAt?_eq_none_iff hne).mpr hnone]
    · rw [beforeComment, ← List.append_assoc, (cutAt?_eq_some_iff hne).mpr ⟨rfl, hfirst⟩]

/-! ## Directives -/

/-- A line declares an argument: after the word come blanks, and then what is left of the argument
when blanks and a comment behind it and quotes around it are taken away. -/
inductive Declares : List Char → List Char → Prop where
  | intro {indent gap front argument back after comment : List Char}
      (hindent : ∀ c ∈ indent, isBlank c = true) (hgap : ∀ c ∈ gap, isBlank c = true)
      (hafter : ∀ c ∈ after, isBlank c = true) (hne : gap ≠ [])
      (hfront : ∀ c ∈ front, c = '"') (hback : ∀ c ∈ back, c = '"')
      (hargument : argument ≠ []) (hbare : IsTrimmed (· = '"') argument)
      (hquoted : IsTrimmed isBlank (front ++ argument ++ back))
      (hcomment : IsComment (gap ++ (front ++ argument ++ back) ++ after) comment) :
      Declares (indent ++ (word ++ (gap ++ (front ++ argument ++ back) ++ after ++ comment)))
        argument

theorem directive?_eq_some_iff_steps {line argument : List Char} :
    directive? line = some argument ↔
      ∃ c rest statement quoted, trim line = word ++ c :: rest ∧ isBlank c = true ∧
        beforeComment (c :: rest) = statement ∧ trim statement = quoted ∧
        trimWhile (· = '"') quoted = argument ∧ argument ≠ [] := by
  constructor
  · intro h
    rw [directive?] at h
    split at h
    · next c rest hword =>
        split at h
        · next hblank =>
            dsimp only at h
            split at h
            · cases h
            · next hne =>
                obtain rfl := Option.some.inj h
                exact ⟨c, rest, _, _, afterPrefix?_eq_some_iff.mp hword, hblank, rfl, rfl, rfl,
                  by simpa using hne⟩
        · cases h
    · cases h
  · rintro ⟨c, rest, statement, quoted, hline, hblank, hstatement, hquoted, hargument, hne⟩
    have hword : afterPrefix? ['m', 'o', 'd', 'u', 'l', 'e'] (trim line) = some (c :: rest) :=
      afterPrefix?_eq_some_iff.mpr hline
    rw [directive?, hword]
    dsimp only
    rw [if_pos hblank, hstatement, hquoted, hargument, if_neg (by simpa using hne)]

theorem declares_of_directive? {line argument : List Char} (h : directive? line = some argument) :
    Declares line argument := by
  obtain ⟨c, rest, statement, quoted, hword, hblank, hbefore, hstripped, hunquoted, hne⟩ :=
    directive?_eq_some_iff_steps.mp h
  obtain ⟨indent, trail, hline, hindent, htrail, -⟩ := trimWhile_eq_iff.mp hword
  obtain ⟨comment, hrest, hcomment⟩ := beforeComment_eq_iff.mp hbefore
  obtain ⟨gap, after, rfl, hgap, hafter, hquoted⟩ := trimWhile_eq_iff.mp hstripped
  obtain ⟨front, back, rfl, hfront, hback, hbare⟩ := trimWhile_eq_iff.mp hunquoted
  have hgapne : gap ≠ [] := by
    rintro rfl
    -- the quoted argument would begin with the blank behind the word
    obtain ⟨d, ds, hd⟩ := List.exists_cons_of_ne_nil
      (List.append_ne_nil_of_left_ne_nil (List.append_ne_nil_of_right_ne_nil front hne) back)
    rw [hd] at hrest hquoted
    obtain ⟨rfl, -⟩ := List.cons.inj hrest
    rw [hquoted.1 c rfl] at hblank
    cases hblank
  have hfront : ∀ d ∈ front, d = '"' := fun d hd => by simpa using hfront d hd
  have hback : ∀ d ∈ back, d = '"' := fun d hd => by simpa using hback d hd
  rw [hline, hrest]
  rcases hcomment with ⟨rfl, hnone⟩ | ⟨hslashes, hfirst⟩
  · -- blanks at the end of the line stand behind the argument
    have hlong : IsComment (gap ++ (front ++ argument ++ back) ++ (after ++ trail)) [] := by
      refine .inl ⟨rfl, fun hfound => hnone ?_⟩
      rw [← List.append_assoc] at hfound
      exact infix_of_infix_append_left (List.cons_ne_nil _ _)
        (fun d hd => ne_slash_of_isBlank (htrail d hd)) hfound
    have hblanks : ∀ d ∈ after ++ trail, isBlank d = true :=
      fun d hd => (List.mem_append.mp hd).elim (hafter d) (htrail d)
    have hdeclares := Declares.intro hindent hgap hblanks hgapne hfront hback hne hbare hquoted hlong
    simpa only [List.append_assoc, List.append_nil] using hdeclares
  · have hlong : IsComment (gap ++ (front ++ argument ++ back) ++ after) (comment ++ trail) :=
      .inr ⟨hslashes.trans (List.prefix_append _ _), hfirst⟩
    have hdeclares := Declares.intro hindent hgap hafter hgapne hfront hback hne hbare hquoted hlong
    simpa only [List.append_assoc] using hdeclares

theorem exists_trimmed_comment {comment : List Char} (h : ['/', '/'] <+: comment) :
    ∃ kept trail, comment = kept ++ trail ∧ ['/', '/'] <+: kept ∧ IsTrimmed isBlank kept ∧
      ∀ c ∈ trail, isBlank c = true := by
  obtain ⟨text, rfl⟩ := h
  obtain ⟨lead, trail, hcomment, hlead, htrail⟩ :=
    exists_eq_append_trimWhile isBlank (['/', '/'] ++ text)
  have hkept := isTrimmed_trimWhile isBlank (['/', '/'] ++ text)
  generalize trimWhile isBlank (['/', '/'] ++ text) = kept at hcomment hkept
  have hslash : isBlank '/' = false := rfl
  obtain rfl : lead = [] := by
    cases lead with
    | nil => rfl
    | cons c lead =>
        obtain ⟨rfl, -⟩ := List.cons.inj hcomment
        rw [hlead _ List.mem_cons_self] at hslash
        cases hslash
  -- nor is either slash among the blanks behind it
  refine ⟨kept, trail, hcomment, ?_, hkept, htrail⟩
  rcases kept with _ | ⟨a, _ | ⟨b, kept⟩⟩ <;> grind

theorem Declares.directive? {line argument : List Char} (h : Declares line argument) :
    directive? line = some argument := by
  obtain @⟨indent, gap, front, argument, back, after, comment, hindent, hgap, hafter, hne, hfront,
    hback, hargument, hbare, hquoted, hcomment⟩ := h
  have hunquoted : trimWhile (· = '"') (front ++ argument ++ back) = argument :=
    trimWhile_eq_iff.mpr ⟨front, back, rfl, fun c hc => by simpa using hfront c hc,
      fun c hc => by simpa using hback c hc, hbare⟩
  have hquotedne : front ++ argument ++ back ≠ [] :=
    List.append_ne_nil_of_left_ne_nil (List.append_ne_nil_of_right_ne_nil front hargument) back
  generalize front ++ argument ++ back = quoted at *
  have hword : IsTrimmed isBlank word := isTrimmed_of_forall (by simp [word, isBlank])
  have hwordne : word ≠ [] := List.cons_ne_nil _ _
  obtain ⟨b, gap, rfl⟩ := List.exists_cons_of_ne_nil hne
  have hblank := hgap b List.mem_cons_self
  rw [directive?_eq_some_iff_steps]
  rcases hcomment with ⟨rfl, hnone⟩ | ⟨hslashes, hfirst⟩
  · have htrim : trim (indent ++ (word ++ (b :: gap ++ quoted ++ after ++ []))) =
        word ++ (b :: gap) ++ quoted :=
      trimWhile_eq_iff.mpr ⟨indent, after, by simp, hindent, hafter,
        hword.enclose hquoted hwordne hquotedne _⟩
    have hstatement : beforeComment (b :: gap ++ quoted) = b :: gap ++ quoted :=
      beforeComment_eq_iff.mpr ⟨[], (List.append_nil _).symm,
        .inl ⟨rfl, fun hfound => hnone (hfound.trans (List.prefix_append _ _).isInfix)⟩⟩
    have hstripped : trim (b :: gap ++ quoted) = quoted :=
      trimWhile_eq_iff.mpr ⟨b :: gap, [], by simp, hgap, by simp, hquoted⟩
    exact ⟨b, gap ++ quoted, _, _, by simpa using htrim, hblank, hstatement, hstripped, hunquoted,
      hargument⟩
  · obtain ⟨kept, trail, rfl, hkept, htrimmed, htrail⟩ := exists_trimmed_comment hslashes
    have htrim : trim (indent ++ (word ++ (b :: gap ++ quoted ++ after ++ (kept ++ trail)))) =
        word ++ (b :: gap ++ quoted ++ after) ++ kept :=
      trimWhile_eq_iff.mpr ⟨indent, trail, by simp, hindent, htrail,
        hword.enclose htrimmed hwordne (hkept.ne_nil (List.cons_ne_nil _ _)) _⟩
    have hstatement : beforeComment (b :: gap ++ quoted ++ after ++ kept) =
        b :: gap ++ quoted ++ after :=
      beforeComment_eq_iff.mpr ⟨kept, rfl, .inr ⟨hkept, hfirst⟩⟩
    have hstripped : trim (b :: gap ++ quoted ++ after) = quoted :=
      trimWhile_eq_iff.mpr ⟨b :: gap, after, rfl, hgap, hafter, hquoted⟩
    exact ⟨b, gap ++ quoted ++ after ++ kept, _, _, by simpa using htrim, hblank, hstatement,
      hstripped, hunquoted, hargument⟩

theorem directive?_eq_some_iff {line argument : List Char} :
    directive? line = some argument ↔ Declares line argument :=
  ⟨declares_of_directive?, Declares.directive?⟩

theorem directive?_eq_none_iff {line : List Char} :
    directive? line = none ↔ ∀ argument, ¬ Declares line argument := by
  simp only [← directive?_eq_some_iff, Option.eq_none_iff_forall_ne_some, ne_eq]

/-! ## Lines that declare nothing -/

/-- Lines that stand around a directive: blank ones, comments, words that only begin like a
directive, and the word alone. -/
inductive IsOther : List Char → Prop where
  | blank {line : List Char} (h : ∀ c ∈ line, isBlank c = true) : IsOther line
  | comment {indent text : List Char} (hindent : ∀ c ∈ indent, isBlank c = true) :
      IsOther (indent ++ '/' :: '/' :: text)
  | lookalike {indent rest : List Char} {c : Char} (hindent : ∀ c ∈ indent, isBlank c = true)
      (hc : isBlank c = false) : IsOther (indent ++ word ++ c :: rest)
  | bare {indent gap : List Char} (hindent : ∀ c ∈ indent, isBlank c = true)
      (hgap : ∀ c ∈ gap, isBlank c = true) : IsOther (indent ++ word ++ gap)

theorem Declares.dropWhile_eq {line argument : List Char} (h : Declares line argument) :
    ∃ c rest, line.dropWhile isBlank = word ++ c :: rest ∧ isBlank c = true ∧
      ∃ d ∈ rest, isBlank d = false := by
  obtain @⟨indent, gap, front, argument, back, after, comment, hindent, hgap, -, hne, -, -,
    hargument, -, hquoted, -⟩ := h
  obtain ⟨b, gap, rfl⟩ := List.exists_cons_of_ne_nil hne
  obtain ⟨d, ds, hd⟩ := List.exists_cons_of_ne_nil
    (List.append_ne_nil_of_left_ne_nil (List.append_ne_nil_of_right_ne_nil front hargument) back)
  rw [hd] at hquoted ⊢
  refine ⟨b, gap ++ (d :: ds) ++ after ++ comment, ?_, hgap b List.mem_cons_self, d, by simp,
    hquoted.1 d rfl⟩
  rw [List.dropWhile_append_of_pos hindent]
  rfl

theorem IsOther.not_declares {line : List Char} (h : IsOther line) (argument : List Char) :
    ¬ Declares line argument := by
  intro hdeclares
  obtain ⟨c, rest, hdrop, hc, d, hd, hd'⟩ := hdeclares.dropWhile_eq
  cases h with
  | blank hblank =>
      rw [List.dropWhile_eq_nil_iff.mpr hblank] at hdrop
      simp at hdrop
  | comment hindent =>
      rw [List.dropWhile_append_of_pos hindent] at hdrop
      cases hdrop
  | lookalike hindent hother =>
      rw [List.append_assoc, List.dropWhile_append_of_pos hindent] at hdrop
      obtain ⟨rfl, -⟩ := List.cons.inj ((List.append_right_inj word).mp hdrop)
      rw [hother] at hc
      cases hc
  | bare hindent hgap =>
      rw [List.append_assoc, List.dropWhile_append_of_pos hindent] at hdrop
      have hrest := (List.append_right_inj word).mp hdrop
      rw [hgap d (by rw [hrest]; exact List.mem_cons_of_mem _ hd)] at hd'
      cases hd'

/-! ## Directives as they are written -/

structure IsToken (m : List Char) : Prop where
  ne_nil : m ≠ []
  not_blank : ∀ c ∈ m, isBlank c = false
  not_quote : '"' ∉ m
  not_comment : ¬ ['/', '/'] <:+: m

/-- A line that names a token, bare or between quotes, with blanks around it and perhaps a comment
behind a blank. -/
inductive Names (m : List Char) : List Char → Prop where
  | intro {indent gap quote after comment : List Char}
      (hindent : ∀ c ∈ indent, isBlank c = true) (hgap : ∀ c ∈ gap, isBlank c = true)
      (hafter : ∀ c ∈ after, isBlank c = true) (hne : gap ≠ [])
      (hquote : quote = [] ∨ quote = ['"'])
      (hcomment : comment = [] ∨ after ≠ [] ∧ ['/', '/'] <+: comment) :
      Names m (indent ++ (word ++ (gap ++ (quote ++ m ++ quote) ++ after ++ comment)))

/-- Around a token stands no part of a comment. -/
theorem IsToken.not_infix {m gap quote after : List Char} (h : IsToken m)
    (hgap : ∀ c ∈ gap, isBlank c = true) (hquote : ∀ c ∈ quote, c = '"')
    (hafter : ∀ c ∈ after, isBlank c = true) :
    ¬ ['/', '/'] <:+: gap ++ (quote ++ m ++ quote) ++ after := by
  have hne : ['/', '/'] ≠ [] := List.cons_ne_nil _ _
  have hfree : ∀ c ∈ quote, c ∉ ['/', '/'] := by
    intro c hc
    rw [hquote c hc]
    decide
  intro hfound
  have hleft := infix_of_infix_append_left hne
    (fun c hc => ne_slash_of_isBlank (hafter c hc)) hfound
  have hquoted := infix_of_infix_append_right hne
    (fun c hc => ne_slash_of_isBlank (hgap c hc)) hleft
  have hfront := infix_of_infix_append_left hne hfree hquoted
  exact h.not_comment (infix_of_infix_append_right hne hfree hfront)

theorem Names.declares {m line : List Char} (h : Names m line) (hm : IsToken m) :
    Declares line m := by
  obtain @⟨indent, gap, quote, after, comment, hindent, hgap, hafter, hne, hquote, hcomment⟩ := h
  have hquotes : ∀ c ∈ quote, c = '"' := by
    rcases hquote with rfl | rfl <;> simp
  have hbare : IsTrimmed (· = '"') m := by
    refine isTrimmed_of_forall fun c hc => ?_
    simp only [decide_eq_false_iff_not]
    rintro rfl
    exact hm.not_quote hc
  have hquoted : IsTrimmed isBlank (quote ++ m ++ quote) := by
    refine isTrimmed_of_forall fun c hc => ?_
    have hends : c ∈ quote → isBlank c = false := fun hc => by rw [hquotes c hc]; rfl
    simp only [List.mem_append] at hc
    rcases hc with (hc | hc) | hc
    · exact hends hc
    · exact hm.not_blank c hc
    · exact hends hc
  refine .intro hindent hgap hafter hne hquotes hquotes hm.ne_nil hbare hquoted ?_
  rcases hcomment with rfl | ⟨hblanks, hslashes⟩
  · exact .inl ⟨rfl, hm.not_infix hgap hquotes hafter⟩
  · -- the blank before the comment keeps its slashes apart from those of the token
    refine .inr ⟨hslashes, fun hfound => ?_⟩
    obtain ⟨init, b, rfl⟩ := (List.eq_nil_or_concat' after).resolve_left hblanks
    obtain ⟨hinit, hb⟩ := List.forall_mem_append.mp hafter
    rw [← List.append_assoc, List.append_assoc, List.singleton_append,
      infix_append_cons_iff (ne_slash_of_isBlank (hb b List.mem_cons_self))] at hfound
    rcases hfound with hfound | hfound
    · exact hm.not_infix hgap hquotes hinit hfound
    · exact absurd hfound.length_le (by decide)

/-! ## The first directive -/

theorem modulePath?_eq_some_iff {text m : String} :
    modulePath? text = some m ↔
      ∃ before line after, Line.split text.toList = before ++ line :: after ∧
        Declares line m.toList ∧ ∀ other ∈ before, ∀ argument, ¬ Declares other argument := by
  simp only [modulePath?, Option.map_eq_some_iff, List.findSome?_eq_some_iff,
    directive?_eq_some_iff, directive?_eq_none_iff]
  constructor
  · rintro ⟨argument, ⟨before, line, after, hsplit, hline, hbefore⟩, rfl⟩
    rw [String.toList_ofList]
    exact ⟨before, line, after, hsplit, hline, hbefore⟩
  · rintro ⟨before, line, after, hsplit, hline, hbefore⟩
    exact ⟨m.toList, ⟨before, line, after, hsplit, hline, hbefore⟩, String.ofList_toList⟩

theorem modulePath?_eq_none_iff {text : String} :
    modulePath? text = none ↔
      ∀ line ∈ Line.split text.toList, ∀ argument, ¬ Declares line argument := by
  simp only [modulePath?, Option.map_eq_none_iff, List.findSome?_eq_none_iff,
    directive?_eq_none_iff]

def IsLineEnd (cs : List Char) : Prop :=
  cs = ['\n'] ∨ cs = ['\r', '\n']

theorem IsLineEnd.split {lineEnd line : List Char} (h : IsLineEnd lineEnd) (hline : '\n' ∉ line)
    (more : List Char) :
    Line.split (line ++ lineEnd ++ more) = (line ++ lineEnd) :: Line.split more := by
  have hnewline {front : List Char} (hfront : '\n' ∉ front) :
      Line.split (front ++ ['\n'] ++ more) = (front ++ ['\n']) :: Line.split more := by
    rw [Line.split_append (by simp), Line.split_concat_newline hfront, List.singleton_append]
  rcases h with rfl | rfl
  · exact hnewline hline
  · have hreturn := @hnewline (line ++ ['\r']) (by simpa using hline)
    simpa only [List.append_assoc, List.cons_append, List.nil_append] using hreturn

theorem declares_append_lineEnd_iff {line lineEnd argument : List Char}
    (h : IsLineEnd lineEnd) : Declares (line ++ lineEnd) argument ↔ Declares line argument := by
  have hblank : ∀ c ∈ lineEnd, isBlank c = true := by
    rcases h with rfl | rfl <;> simp [isBlank]
  rw [← directive?_eq_some_iff, ← directive?_eq_some_iff, directive?, directive?, trim, trim,
    trimWhile_append hblank]

def Passes (leading : List (List Char × List Char)) : Prop :=
  ∀ l ∈ leading, '\n' ∉ l.1 ∧ IsLineEnd l.2 ∧ ∀ argument, ¬ Declares l.1 argument

theorem split_leading {leading : List (List Char × List Char)} (h : Passes leading)
    (more : List Char) :
    Line.split (leading.flatMap (fun l => l.1 ++ l.2) ++ more) =
      leading.map (fun l => l.1 ++ l.2) ++ Line.split more := by
  induction leading with
  | nil => rfl
  | cons l leading ih =>
      obtain ⟨⟨hline, hend, -⟩, hleading⟩ := List.forall_mem_cons.mp h
      rw [List.flatMap_cons, List.append_assoc, hend.split hline, ih hleading, List.map_cons,
        List.cons_append]

/-- What may follow a line: nothing, or its end and any text. -/
def IsFollowing (following : List Char) : Prop :=
  following = [] ∨ ∃ lineEnd rest, IsLineEnd lineEnd ∧ following = lineEnd ++ rest

theorem exists_split_directive {line following argument : List Char} (hline : '\n' ∉ line)
    (h : Declares line argument) (hfollowing : IsFollowing following) :
    ∃ first later, Line.split (line ++ following) = first :: later ∧ Declares first argument := by
  rcases hfollowing with rfl | ⟨lineEnd, rest, hend, rfl⟩
  · have hne : line ≠ [] := by
      rintro rfl
      obtain ⟨_, _, hword, -⟩ := h.dropWhile_eq
      cases hword
    rw [List.append_nil]
    exact ⟨line, [], Line.split_of_notMem hne hline, h⟩
  · rw [← List.append_assoc]
    exact ⟨_, _, hend.split hline rest, (declares_append_lineEnd_iff hend).mpr h⟩

/-- A directive counts whatever stands before it, if that declares nothing, and after it. -/
theorem modulePath?_of_lines {leading : List (List Char × List Char)}
    {line following argument : List Char} {text : String} (hleading : Passes leading)
    (hline : '\n' ∉ line) (h : Declares line argument) (hfollowing : IsFollowing following)
    (htext : text.toList = leading.flatMap (fun l => l.1 ++ l.2) ++ (line ++ following)) :
    modulePath? text = some (String.ofList argument) := by
  obtain ⟨first, later, hsplit, hfirst⟩ := exists_split_directive hline h hfollowing
  refine modulePath?_eq_some_iff.mpr
    ⟨leading.map fun l => l.1 ++ l.2, first, later, ?_, ?_, ?_⟩
  · rw [htext, split_leading hleading, hsplit]
  · rwa [String.toList_ofList]
  · intro other hother
    obtain ⟨l, hl, rfl⟩ := List.mem_map.mp hother
    obtain ⟨-, hend, hpasses⟩ := hleading l hl
    intro argument hdeclares
    exact hpasses argument ((declares_append_lineEnd_iff hend).mp hdeclares)

/-! ## Discovery -/

theorem run_discover (store : Store) (root : Path) :
    (discover Filesystem.ofStore root).run store =
      (if store.contains (root.join moduleFile) then
        (store.readText (root.join moduleFile)).map (ofModuleFile root)
      else .ok (ofRoot root), store) := by
  have hcontains : (Filesystem.ofStore.contains (root.join moduleFile)).run store =
      pure (store.contains (root.join moduleFile), store) := rfl
  have hread : (Filesystem.ofStore.readText (root.join moduleFile)).run store =
      pure (store.readText (root.join moduleFile), store) := rfl
  rw [discover, StateT.run_bind, hcontains, pure_bind]
  cases store.contains (root.join moduleFile) with
  | false => rfl
  | true =>
      rw [if_pos rfl, if_pos rfl, StateT.run_bind, hread, pure_bind]
      cases store.readText (root.join moduleFile) <;> rfl

theorem ofModuleFile_eq (root : Path) (text : String) :
    ofModuleFile root text =
      ⟨(ofRoot root).name, (modulePath? text).getD (ofRoot root).name, root⟩ := by
  rw [ofModuleFile]
  cases modulePath? text <;> rfl

theorem discover_of_text {store : Store} {root : Path} {text : String}
    (h : store.bytes? (root.join moduleFile) = some text.toUTF8) :
    ((discover Filesystem.ofStore root).run store).1 =
      .ok ⟨(ofRoot root).name, (modulePath? text).getD (ofRoot root).name, root⟩ := by
  rw [run_discover, if_pos (Store.contains_of_bytes? h), Store.readText_of_bytes? h,
    ← ofModuleFile_eq]
  rfl

theorem discover_eq_error_iff {store : Store} {root : Path} :
    (∃ failure, ((discover Filesystem.ofStore root).run store).1 = .error failure) ↔
      store.contains (root.join moduleFile) = true ∧
        ∀ text : String, store.bytes? (root.join moduleFile) ≠ some text.toUTF8 := by
  rw [run_discover, ← Store.readText_eq_error_iff]
  cases store.contains (root.join moduleFile) with
  | false => simp
  | true => cases store.readText (root.join moduleFile) <;> simp [Except.map]

/-- Discovery fails only if there is something at the module file that is not a file of text. Name
and root of the project are those of the directory, and the module path is the argument of the first
directive of the module file, or the name if it has none. A directive that names a token gives the
token, whatever the spaces, quotes, comments and line ends that it is written with, and whatever
lines that are no directives stand before it. -/
theorem discover_finds_module_directive (store : Store) (root : Path) :
    let file := root.join moduleFile
    let result := ((discover Filesystem.ofStore root).run store).1
    ((∃ failure, result = .error failure) ↔
      store.contains file = true ∧ ∀ text : String, store.bytes? file ≠ some text.toUTF8) ∧
    (store.contains file = false → result = .ok (ofRoot root)) ∧
    (∀ text : String, store.bytes? file = some text.toUTF8 →
      ∃ modulePath, result = .ok ⟨(ofRoot root).name, modulePath, root⟩ ∧
        ((∀ line ∈ Line.split text.toList, ∀ argument, ¬ Declares line argument) →
          modulePath = (ofRoot root).name) ∧
        (∀ before line after argument, Line.split text.toList = before ++ line :: after →
          (∀ other ∈ before, ∀ argument, ¬ Declares other argument) → Declares line argument →
          modulePath = String.ofList argument) ∧
        ∀ leading line following m, Passes leading → '\n' ∉ line → IsToken m → Names m line →
          IsFollowing following →
          text.toList = leading.flatMap (fun l => l.1 ++ l.2) ++ (line ++ following) →
          modulePath = String.ofList m) ∧
    ∀ line, IsOther line → ∀ argument, ¬ Declares line argument := by
  intro file result
  refine ⟨discover_eq_error_iff, fun habsent => ?_, fun text htext => ?_,
    fun _ => IsOther.not_declares⟩
  · have hresult : result = _ := congrArg Prod.fst (run_discover store root)
    rw [hresult, if_neg (Bool.eq_false_iff.mp habsent)]
  · refine ⟨_, discover_of_text htext, fun hnone => ?_, ?_, ?_⟩
    · rw [modulePath?_eq_none_iff.mpr hnone, Option.getD_none]
    · intro before line after argument hsplit hbefore hline
      have hpath : modulePath? text = some (String.ofList argument) :=
        modulePath?_eq_some_iff.mpr
          ⟨before, line, after, hsplit, by rwa [String.toList_ofList], hbefore⟩
      rw [hpath, Option.getD_some]
    · intro leading line following m hleading hline hm hnames hfollowing hlines
      rw [modulePath?_of_lines hleading hline (hnames.declares hm) hfollowing hlines,
        Option.getD_some]

/-- A comment, the word alone and a word that only begins like it stand before the directive. -/
theorem directive_behind_lookalikes :
    let text := "// shop\r\nmodule\nmodules x\n\tmodule  \"acme.io/shop\" // main\n\ngo 1.21\n"
    let store := Store.empty.withFile ⟨"/work/shop/go.mod"⟩ text.toUTF8
    ((discover Filesystem.ofStore ⟨"/work/shop"⟩).run store).1 =
      .ok ⟨"shop", "acme.io/shop", ⟨"/work/shop"⟩⟩ := by
  intro text store
  let leading : List (List Char × List Char) := [("// shop".toList, "\r\n".toList),
    ("module".toList, "\n".toList), ("modules x".toList, "\n".toList)]
  let line := "\tmodule  \"acme.io/shop\" // main".toList
  obtain ⟨-, -, hread, hother⟩ := discover_finds_module_directive store ⟨"/work/shop"⟩
  obtain ⟨modulePath, hresult, -, -, hnames⟩ :=
    hread text (by decide +kernel)
  have hleading : Passes leading := by
    have hcomment := hother _ (@IsOther.comment [] " shop".toList (by simp))
    have hbare := hother _ (@IsOther.bare [] [] (by simp) (by simp))
    have hlookalike := hother _ (@IsOther.lookalike [] " x".toList 's' (by simp) rfl)
    intro l hl
    simp only [leading, List.mem_cons, List.not_mem_nil, or_false] at hl
    rcases hl with rfl | rfl | rfl
    · exact ⟨by decide, .inr rfl, hcomment⟩
    · exact ⟨by decide, .inl rfl, hbare⟩
    · exact ⟨by decide, .inl rfl, hlookalike⟩
  have htoken : IsToken "acme.io/shop".toList :=
    ⟨by decide, by simp [isBlank], by decide, by decide +kernel⟩
  have hline : Names "acme.io/shop".toList line :=
    @Names.intro _ ['\t'] [' ', ' '] ['"'] [' '] "// main".toList (by simp [isBlank])
      (by simp [isBlank]) (by simp [isBlank]) (by simp) (.inr rfl)
      (.inr ⟨by simp, " main".toList, rfl⟩)
  have hpath := hnames leading line "\n\ngo 1.21\n".toList _ hleading (by decide) htoken hline
    (.inr ⟨['\n'], "\ngo 1.21\n".toList, .inl rfl, rfl⟩) (by decide +kernel)
  have hname : (ofRoot ⟨"/work/shop"⟩).name = "shop" := by decide +kernel
  rw [hresult, hpath, hname, String.ofList_toList]

end Scaffold.Project
