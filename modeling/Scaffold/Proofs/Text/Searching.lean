import Scaffold.Proofs.Text.Cutting
/-!
# The first occurrence of a text

The line where a search ends, seen in the whole text. Searching line by line and cutting the text at
the first occurrence go through the text in the same way, and the number of the line is the number
of newlines before the cut.
-/

namespace Scaffold.Text

/-- A text occurs in another one right after `before`, and nowhere earlier. -/
structure OccursFirstAfter (needle before cs : List Char) : Prop where
  occurs : before ++ needle <+: cs
  first : ∀ other, other ++ needle <+: cs → before.length ≤ other.length

theorem occursFirstAfter_iff {needle before cs : List Char} (hne : needle ≠ []) :
    OccursFirstAfter needle before cs ↔ ∃ rest, cutAt? needle cs = some (before, rest) := by
  have hpos := List.length_pos_iff.mpr hne
  constructor
  · rintro ⟨⟨rest, hcs⟩, hfirst⟩
    refine ⟨rest, (cutAt?_eq_some_iff hne).mpr ⟨hcs.symm, ?_⟩⟩
    rintro ⟨other, after, hother⟩
    have hprefix : other ++ needle <+: cs := by
      rw [← hcs]
      exact .trans ⟨after, hother⟩ (prefix_append_dropLast before needle rest)
    have hle := hfirst other hprefix
    have hlength := congrArg List.length hother
    simp only [List.length_append, List.length_dropLast] at hlength
    omega
  · rintro ⟨rest, hcut⟩
    obtain ⟨rfl, hnone⟩ := (cutAt?_eq_some_iff hne).mp hcut
    refine ⟨List.prefix_append _ _, fun other hother => ?_⟩
    by_contra hlt
    -- an earlier occurrence would end before the one at which the text is cut
    have hshort : (other ++ needle).length ≤ (before ++ needle.dropLast).length := by
      rw [List.length_append, List.length_append, List.length_dropLast]
      omega
    have hearly := List.prefix_of_prefix_length_le hother
      (prefix_append_dropLast before needle rest) hshort
    exact hnone ((List.suffix_append other needle).isInfix.trans hearly.isInfix)

namespace Line

theorem find?_of_isPrefix {needle cs : List Char} (hne : needle ≠ [])
    (hneedle : '\n' ∉ needle.dropLast) (h : needle <+: cs) : find? needle cs = some 0 := by
  obtain ⟨line, lines, hsplit⟩ := List.exists_cons_of_ne_nil
    (mt split_eq_nil_iff.mp fun hcs => hne (List.prefix_nil.mp (hcs ▸ h)))
  exact find?_eq_some_iff.mpr ⟨[], line, lines, hsplit, rfl,
    ((prefix_iff_prefix_first hneedle hsplit).mp h).isInfix, by simp⟩

/-- A search that does not end at the first character goes on behind it, a line further down if it
is a newline. -/
theorem find?_cons_of_not_isPrefix {needle cs : List Char} {c : Char} (hne : needle ≠ [])
    (hneedle : '\n' ∉ needle.dropLast) (h : ¬ needle <+: c :: cs) :
    find? needle (c :: cs) =
      (find? needle cs).map fun index => index + if c = '\n' then 1 else 0 := by
  by_cases hc : c = '\n'
  · subst hc
    have hline : occursIn needle ['\n'] = false := by
      rw [Bool.eq_false_iff, ne_eq, occursIn_iff, List.infix_cons_iff, List.infix_nil,
        ← prefix_iff_prefix_first hneedle (split_cons_newline cs)]
      simp [h, hne]
    rw [find?, split_cons_newline, List.findIdx?_cons, hline]
    rfl
  · cases hsplit : split cs with
    | nil =>
        obtain rfl := split_eq_nil_iff.mp hsplit
        have hline : occursIn needle [c] = false := by
          rw [Bool.eq_false_iff, ne_eq, occursIn_iff, List.infix_cons_iff, List.infix_nil]
          simp [h, hne]
        rw [find?, split_cons_of_nil hc hsplit, List.findIdx?_cons, hline]
        rfl
    | cons line lines =>
        -- the character joins the first line, which it does not make hold what is looked for
        have hsplit' := split_cons_of_cons hc hsplit
        have hline : occursIn needle (c :: line) = occursIn needle line := by
          rw [Bool.eq_iff_iff, occursIn_iff, occursIn_iff, List.infix_cons_iff,
            ← prefix_iff_prefix_first hneedle hsplit', or_iff_right h]
        rw [find?, find?, hsplit, hsplit', List.findIdx?_cons, List.findIdx?_cons, hline, if_neg hc]
        simp

theorem find?_eq_map_cutAt? {needle cs : List Char} (hne : needle ≠ [])
    (hneedle : '\n' ∉ needle.dropLast) :
    find? needle cs = (cutAt? needle cs).map fun parts => parts.1.count '\n' := by
  induction cs with
  | nil => rw [(cutAt?_eq_none_iff hne).mpr (by simpa using hne)]; rfl
  | cons c cs ih =>
      by_cases hprefix : needle <+: c :: cs
      · rw [find?_of_isPrefix hne hneedle hprefix]
        obtain ⟨rest, hrest⟩ := hprefix
        rw [← hrest, cutAt?_of_prefix hne]
        rfl
      · rw [find?_cons_of_not_isPrefix hne hneedle hprefix, cutAt?_cons_of_not_isPrefix hprefix, ih,
          Option.map_map, Option.map_map]
        congr 1
        funext parts
        simp only [Function.comp_apply, List.count_cons, beq_iff_eq]

/-- A text that has a newline nowhere but at its end is found line by line exactly if it occurs in
the whole text. The line it is found in has as many lines before it as there are newlines before the
first occurrence, and it is a line of the text. -/
theorem search_by_lines_finds_first_occurrence {needle : List Char} (hne : needle ≠ [])
    (hneedle : '\n' ∉ needle.dropLast) (cs : List Char) :
    ((find? needle cs).isSome ↔ needle <:+: cs) ∧
    (∀ index, find? needle cs = some index ↔
      ∃ before, OccursFirstAfter needle before cs ∧ before.count '\n' = index) ∧
    ∀ index, find? needle cs = some index → (get? cs index).isSome := by
  refine ⟨?_, fun index => ?_, fun index hfound => ?_⟩
  · rw [find?_isSome_iff, infix_iff_exists_line hne hneedle]
  · simp [find?_eq_map_cutAt? hne hneedle, occursFirstAfter_iff hne]
  · obtain ⟨earlier, line, later, hsplit, rfl, -⟩ := find?_eq_some_iff.mp hfound
    simp [get?, hsplit]

/-- The end of a line, before a last line that lacks it. -/
theorem line_end_found_before_last_line :
    let needle := "ne\n".toList
    let cs := "no\nnew one\nne".toList
    needle ≠ [] ∧ '\n' ∉ needle.dropLast ∧ find? needle cs = some 1 ∧ needle <:+: cs ∧
      (∃ before, OccursFirstAfter needle before cs ∧ before.count '\n' = 1) ∧
      (get? cs 1).isSome := by
  intro needle cs
  have hne : needle ≠ [] := by decide
  have hneedle : '\n' ∉ needle.dropLast := by decide
  have hfound : find? needle cs = some 1 := by decide
  obtain ⟨hoccurs, hfirst, hline⟩ := search_by_lines_finds_first_occurrence hne hneedle cs
  exact ⟨hne, hneedle, hfound, hoccurs.mp (by rw [hfound]; rfl), (hfirst 1).mp hfound,
    hline 1 hfound⟩

end Line

end Scaffold.Text
