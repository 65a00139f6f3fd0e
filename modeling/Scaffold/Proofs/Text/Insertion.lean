import Mathlib.Data.List.TakeWhile
import Scaffold.Proofs.Text.Splitting
/-!
# Rows inserted after a line

The lines up to the insertion point stay, so a search that ended at or before it ends there again,
and rows inserted twice at one line are the rows inserted once, the later ones first.
-/

namespace Scaffold.Text

theorem infix_append_cons_iff {c : Char} {needle as bs : List Char} (hc : c ∉ needle) :
    needle <:+: as ++ c :: bs ↔ needle <:+: as ∨ needle <:+: bs := by
  constructor
  · intro h
    rcases List.infix_append_iff.mp h with h | h | ⟨start, rest, rfl, hstart, hrest⟩
    · exact Or.inl h
    · rcases List.infix_cons_iff.mp h with hprefix | h
      · cases needle with
        | nil => exact Or.inl List.nil_infix
        | cons n needle =>
            obtain ⟨rfl, -⟩ := List.cons_prefix_cons.mp hprefix
            exact absurd List.mem_cons_self hc
      · exact Or.inr h
    · -- what is found across the separator ends before it
      cases rest with
      | nil => exact Or.inl (by simpa using hstart.isInfix)
      | cons n rest =>
          obtain ⟨rfl, -⟩ := List.cons_prefix_cons.mp hrest
          exact absurd (List.mem_append_right _ List.mem_cons_self) hc
  · rintro (h | h)
    · exact h.trans List.infix_append_left
    · exact h.trans ⟨as ++ [c], [], by simp⟩

namespace Line

section Around

variable {cs line : List Char} {earlier later : List (List Char)}

/-! ## Inserting rows -/

theorem ending_of_suffix {line : List Char} (h : ['\r', '\n'] <:+ line) :
    ending line = ['\r', '\n'] := by
  rw [ending, if_pos (List.isSuffixOf_iff_suffix.mpr h)]

theorem newline_suffix_iff {line : List Char} : ['\n'] <:+ line ↔ line.getLast? = some '\n' := by
  rw [List.getLast?_eq_some_iff]
  exact ⟨fun ⟨init, h⟩ => ⟨init, h.symm⟩, fun ⟨init, h⟩ => ⟨init, h.symm⟩⟩

theorem ending_of_not_suffix {line : List Char} (h : ¬ ['\r', '\n'] <:+ line) :
    ending line = if line.getLast? = some '\n' then ['\n'] else [] := by
  rw [ending, if_neg (mt List.isSuffixOf_iff_suffix.mp h)]
  simp only [List.isSuffixOf_iff_suffix, newline_suffix_iff]

theorem ending_of_unterminated {line : List Char} (h : line.getLast? ≠ some '\n') :
    ending line = [] := by
  have hsuffix : ¬ ['\r', '\n'] <:+ line := by
    rintro ⟨init, rfl⟩
    exact h (by simp)
  rw [ending_of_not_suffix hsuffix, if_neg h]

theorem ending_of_terminated {line : List Char} (h : line.getLast? = some '\n') :
    ending line = ['\r', '\n'] ∨ ending line = ['\n'] := by
  by_cases hsuffix : ['\r', '\n'] <:+ line
  · exact Or.inl (ending_of_suffix hsuffix)
  · rw [ending_of_not_suffix hsuffix, if_pos h]
    exact Or.inr rfl

theorem ending_concat_newline {line : List Char} (h : line.getLast? ≠ some '\r') :
    ending (line ++ ['\n']) = ['\n'] := by
  have hsuffix : ¬ ['\r', '\n'] <:+ line ++ ['\n'] := by
    rintro ⟨init, heq⟩
    have hline : init ++ ['\r'] = line := by
      have hassoc : init ++ ['\r', '\n'] = (init ++ ['\r']) ++ ['\n'] := by simp
      rw [hassoc] at heq
      exact List.append_cancel_right heq
    exact h (by simp [← hline])
  rw [ending_of_not_suffix hsuffix, if_pos (by simp)]

theorem block_append (terminator : List Char) (rows more : List (List Char)) :
    block terminator (rows ++ more) = block terminator rows ++ block terminator more := by
  unfold block
  split <;> rw [List.flatMap_append]

theorem block_nil (terminator : List Char) : block terminator [] = [] := by
  unfold block
  split <;> rfl

theorem block_of_ne_nil {terminator : List Char} (h : terminator ≠ []) (rows : List (List Char)) :
    block terminator rows = rows.flatMap (· ++ terminator) := by
  rw [block, if_neg (by simpa using h)]

/-- The block of rows copied some times is the block of the rows, copied as often. -/
theorem block_flatten_replicate (terminator : List Char) (rows : List (List Char)) (times : Nat) :
    block terminator (List.replicate times rows).flatten =
      (List.replicate times (block terminator rows)).flatten := by
  induction times with
  | zero => exact block_nil terminator
  | succ times ih =>
      rw [List.replicate_succ, List.replicate_succ, List.flatten_cons, List.flatten_cons,
        block_append, ih]

/-- What a block looks like after each kind of line. -/
theorem block_ending (line : List Char) (rows : List (List Char)) :
    (['\r', '\n'] <:+ line → block (ending line) rows = rows.flatMap (· ++ ['\r', '\n'])) ∧
    (['\n'] <:+ line → ¬ ['\r', '\n'] <:+ line →
      block (ending line) rows = rows.flatMap (· ++ ['\n'])) ∧
    (¬ ['\n'] <:+ line → block (ending line) rows = rows.flatMap (['\n'] ++ ·)) := by
  refine ⟨?_, ?_, ?_⟩
  · intro hend
    rw [ending_of_suffix hend, block_of_ne_nil (by simp)]
  · intro hend hreturn
    rw [ending_of_not_suffix hreturn, if_pos (newline_suffix_iff.mp hend),
      block_of_ne_nil (by simp)]
  · intro hend
    rw [ending_of_unterminated (mt newline_suffix_iff.mpr hend)]
    rfl

theorem insertAfter_of_split (h : split cs = earlier ++ line :: later)
    (rows : List (List Char)) :
    insertAfter cs earlier.length rows =
      earlier.flatten ++ line ++ block (ending line) rows ++ later.flatten := by
  have hline : (split cs)[earlier.length]? = some line := by simp [h]
  simp only [insertAfter, hline]
  simp [h]

theorem insertAfter_of_getElem?_eq_none {cs : List Char} {index : Nat}
    (h : (split cs)[index]? = none) (rows : List (List Char)) : insertAfter cs index rows = cs := by
  simp only [insertAfter, h]

theorem split_insertAfter_of_terminated (h : split cs = earlier ++ line :: later)
    (hline : line.getLast? = some '\n') (rows : List (List Char)) :
    split (insertAfter cs earlier.length rows) =
      earlier ++ line :: split (block (ending line) rows ++ later.flatten) := by
  have hsingle : split line = [line] := by
    have hinit := (lines_split cs).newline_notMem line (by simp [h])
    obtain ⟨init, rfl⟩ := List.getLast?_eq_some_iff.mp hline
    rw [List.dropLast_concat] at hinit
    exact split_concat_newline hinit
  rw [insertAfter_of_split h, List.append_assoc, List.append_assoc,
    split_flatten_earlier_append h, split_append (by simp [hline]), hsingle, List.singleton_append]

theorem split_insertAfter_of_unterminated (h : split cs = earlier ++ line :: later)
    (hline : line.getLast? ≠ some '\n') (row : List Char) (rows : List (List Char)) :
    split (insertAfter cs earlier.length (row :: rows)) =
      earlier ++ (line ++ ['\n']) :: split (row ++ rows.flatMap ('\n' :: ·)) := by
  have hnewline := newline_notMem_of_unterminated h hline
  have htext : insertAfter cs earlier.length (row :: rows) =
      earlier.flatten ++ ((line ++ ['\n']) ++ (row ++ rows.flatMap ('\n' :: ·))) := by
    rw [insertAfter_of_split h, ending_of_unterminated hline, later_eq_nil h hline]
    simp [block]
  rw [htext, split_flatten_earlier_append h, split_append (by simp),
    split_concat_newline hnewline, List.singleton_append]

theorem exists_split_insertAfter (h : split cs = earlier ++ line :: later)
    (rows : List (List Char)) :
    ∃ kept rest, split (insertAfter cs earlier.length rows) = earlier ++ kept :: rest ∧
      (kept = line ∨ kept = line ++ ['\n']) := by
  by_cases hline : line.getLast? = some '\n'
  · exact ⟨_, _, split_insertAfter_of_terminated h hline rows, Or.inl rfl⟩
  · cases rows with
    | nil =>
        refine ⟨line, later, ?_, Or.inl rfl⟩
        rw [insertAfter_of_split h, block_nil, List.append_nil, ← eq_flatten_of_split h, h]
    | cons row rows => exact ⟨_, _, split_insertAfter_of_unterminated h hline row rows, Or.inr rfl⟩

end Around

theorem insertAfter_nil (cs : List Char) (index : Nat) : insertAfter cs index [] = cs := by
  cases hline : (split cs)[index]? with
  | none => exact insertAfter_of_getElem?_eq_none hline []
  | some line =>
      obtain ⟨earlier, later, h, rfl⟩ := exists_split_of_getElem? hline
      rw [insertAfter_of_split h, block_nil, List.append_nil, ← eq_flatten_of_split h]

theorem flatMap_newline_append (rows : List (List Char)) :
    ['\n'] ++ rows.flatMap (· ++ ['\n']) = rows.flatMap ('\n' :: ·) ++ ['\n'] := by
  induction rows with
  | nil => rfl
  | cons row rows ih => simp [← ih]

/-- Rows inserted twice after one line are inserted once, the later ones first. -/
theorem insertAfter_insertAfter {cs : List Char} {index : Nat}
    (hreturn : ∀ line, (split cs)[index]? = some line → line.getLast? ≠ some '\r')
    (rows more : List (List Char)) :
    insertAfter (insertAfter cs index rows) index more = insertAfter cs index (more ++ rows) := by
  cases hindex : (split cs)[index]? with
  | none => simp only [insertAfter_of_getElem?_eq_none hindex]
  | some line =>
      have hline := hreturn line hindex
      obtain ⟨earlier, later, h, rfl⟩ := exists_split_of_getElem? hindex
      by_cases hend : line.getLast? = some '\n'
      · rw [insertAfter_of_split (split_insertAfter_of_terminated h hend rows),
          insertAfter_of_split h, flatten_split, block_append]
        simp only [List.append_assoc]
      · cases rows with
        | nil => rw [insertAfter_nil, List.append_nil]
        | cons row rows =>
            rw [insertAfter_of_split (split_insertAfter_of_unterminated h hend row rows),
              insertAfter_of_split h, flatten_split, ending_concat_newline hline,
              ending_of_unterminated hend, later_eq_nil h hend]
            -- the newline that the first rows gave the line moves behind the later ones
            calc
              earlier.flatten ++ (line ++ ['\n']) ++ block ['\n'] more ++
                    (row ++ rows.flatMap ('\n' :: ·))
                = earlier.flatten ++ line ++ (['\n'] ++ more.flatMap (· ++ ['\n'])) ++
                    (row ++ rows.flatMap ('\n' :: ·)) := by simp [block]
              _ = earlier.flatten ++ line ++ (more.flatMap ('\n' :: ·) ++ ['\n']) ++
                    (row ++ rows.flatMap ('\n' :: ·)) := by rw [flatMap_newline_append]
              _ = earlier.flatten ++ line ++ block [] (more ++ row :: rows) ++ [].flatten := by
                    simp [block]

/-! ## Searching -/

/-- A search that ended at the line of an insertion ends there again. -/
theorem find?_insertAfter {needle cs : List Char} {index : Nat} (h : find? needle cs = some index)
    (rows : List (List Char)) : find? needle (insertAfter cs index rows) = some index := by
  obtain ⟨earlier, line, later, hsplit, rfl, hfound, hearlier⟩ := find?_eq_some_iff.mp h
  obtain ⟨kept, rest, hinserted, hkept⟩ := exists_split_insertAfter hsplit rows
  refine find?_eq_some_iff.mpr ⟨earlier, kept, rest, hinserted, rfl, ?_, hearlier⟩
  rcases hkept with rfl | rfl
  · exact hfound
  · exact hfound.trans List.infix_append_left

theorem infix_of_infix_newline_rows {needle as : List Char} {rows : List (List Char)}
    (hnewline : '\n' ∉ needle) (h : needle <:+: as ++ rows.flatMap ('\n' :: ·)) :
    needle <:+: as ∨ ∃ row ∈ rows, needle <:+: row := by
  induction rows generalizing as with
  | nil => simpa using h
  | cons row rows ih =>
      rw [List.flatMap_cons, List.cons_append, infix_append_cons_iff hnewline] at h
      rcases h with h | h
      · exact Or.inl h
      · refine Or.inr ?_
        rcases ih h with h | ⟨other, hother, h⟩
        · exact ⟨row, List.mem_cons_self, h⟩
        · exact ⟨other, List.mem_cons_of_mem _ hother, h⟩

theorem infix_of_infix_terminated_rows {needle terminator bs : List Char}
    {rows : List (List Char)} (hne : needle ≠ []) (hnewline : '\n' ∉ needle)
    (hreturn : '\r' ∉ needle) (hterminator : terminator = ['\r', '\n'] ∨ terminator = ['\n'])
    (h : needle <:+: rows.flatMap (· ++ terminator) ++ bs) :
    (∃ row ∈ rows, needle <:+: row) ∨ needle <:+: bs := by
  induction rows with
  | nil => exact Or.inr h
  | cons row rows ih =>
      have hrow : needle <:+: row ∨ needle <:+: rows.flatMap (· ++ terminator) ++ bs := by
        rw [List.flatMap_cons, List.append_assoc, List.append_assoc] at h
        rcases hterminator with rfl | rfl
        · rcases (infix_append_cons_iff hreturn).mp h with h | h
          · exact Or.inl h
          · have h : needle <:+: [] ++ '\n' :: (rows.flatMap (· ++ ['\r', '\n']) ++ bs) := h
            rcases (infix_append_cons_iff hnewline).mp h with h | h
            · exact absurd (List.infix_nil.mp h) hne
            · exact Or.inr h
        · exact (infix_append_cons_iff hnewline).mp h
      rcases hrow with h | h
      · exact Or.inl ⟨row, List.mem_cons_self, h⟩
      · rcases ih h with ⟨other, hother, h⟩ | h
        · exact Or.inl ⟨other, List.mem_cons_of_mem _ hother, h⟩
        · exact Or.inr h

/-- What occurs in a text after an insertion occurred in it before, or occurs in a row. -/
theorem infix_of_infix_insertAfter {needle cs : List Char} {index : Nat}
    {rows : List (List Char)} (hne : needle ≠ []) (hnewline : '\n' ∉ needle)
    (hreturn : '\r' ∉ needle) (h : needle <:+: insertAfter cs index rows) :
    needle <:+: cs ∨ ∃ row ∈ rows, needle <:+: row := by
  cases hindex : (split cs)[index]? with
  | none =>
      rw [insertAfter_of_getElem?_eq_none hindex] at h
      exact Or.inl h
  | some line =>
      obtain ⟨earlier, later, hsplit, rfl⟩ := exists_split_of_getElem? hindex
      have hcs := eq_flatten_of_split hsplit
      rw [insertAfter_of_split hsplit] at h
      by_cases hend : line.getLast? = some '\n'
      · -- the newline of the line keeps what stands before it apart from the rows
        have hterminator := ending_of_terminated hend
        have hfull : ending line ≠ [] := by rcases hterminator with h | h <;> simp [h]
        obtain ⟨init, rfl⟩ := List.getLast?_eq_some_iff.mp hend
        rw [block_of_ne_nil hfull, List.append_assoc, ← List.append_assoc earlier.flatten,
          List.append_assoc (earlier.flatten ++ init), List.singleton_append,
          infix_append_cons_iff hnewline] at h
        rw [← List.append_assoc, List.append_assoc (earlier.flatten ++ init),
          List.singleton_append] at hcs
        rw [hcs, infix_append_cons_iff hnewline]
        rcases h with h | h
        · exact Or.inl (Or.inl h)
        · rcases infix_of_infix_terminated_rows hne hnewline hreturn hterminator h with h | h
          · exact Or.inr h
          · exact Or.inl (Or.inr h)
      · -- the line is the last one, and every row has a newline before it
        rw [later_eq_nil hsplit hend] at hcs h
        rw [ending_of_unterminated hend, List.flatten_nil, List.append_nil] at h
        rw [hcs, List.flatten_nil, List.append_nil]
        exact infix_of_infix_newline_rows hnewline h

theorem find?_insertAfter_eq_none {needle cs : List Char} (hnewline : '\n' ∉ needle)
    (hreturn : '\r' ∉ needle) (h : find? needle cs = none) (index : Nat)
    {rows : List (List Char)} (hrows : ∀ row ∈ rows, ¬ needle <:+: row) :
    find? needle (insertAfter cs index rows) = none := by
  cases hindex : (split cs)[index]? with
  | none => rwa [insertAfter_of_getElem?_eq_none hindex]
  | some line =>
      have hlines := find?_eq_none_iff.mp h
      have hne : needle ≠ [] := by
        rintro rfl
        exact hlines line (List.mem_of_getElem? hindex) List.nil_infix
      have hinit : '\n' ∉ needle.dropLast := fun hmem => hnewline (List.dropLast_subset _ hmem)
      rw [find?_eq_none_iff]
      intro other hother hinfix
      rcases infix_of_infix_insertAfter hne hnewline hreturn
          ((infix_iff_exists_line hne hinit).mpr ⟨other, hother, hinfix⟩) with h | ⟨row, hrow, h⟩
      · obtain ⟨line, hline, h⟩ := (infix_iff_exists_line hne hinit).mp h
        exact hlines line hline h
      · exact hrows row hrow h

/-! ## Indentation -/

theorem takeWhile_append_of_forall_not {p : Char → Bool} {bs : List Char}
    (h : ∀ c ∈ bs, p c = false) (as : List Char) :
    (as ++ bs).takeWhile p = as.takeWhile p := by
  induction as with
  | nil =>
      cases bs with
      | nil => rfl
      | cons b bs => simp [h b List.mem_cons_self]
  | cons a as ih => rw [List.cons_append, List.takeWhile_cons, List.takeWhile_cons, ih]

theorem exists_body_append (line : List Char) :
    ∃ terminator, line = body line ++ terminator ∧ ∀ c ∈ terminator, c = '\n' ∨ c = '\r' := by
  refine ⟨(line.reverse.takeWhile fun c => c = '\n' || c = '\r').reverse, ?_, ?_⟩
  · rw [body, ← List.reverse_append, List.takeWhile_append_dropWhile, List.reverse_reverse]
  · intro c hc
    simpa using List.mem_takeWhile_imp (List.mem_reverse.mp hc)

theorem indentation_body (line : List Char) : indentation (body line) = indentation line := by
  obtain ⟨terminator, hline, hterminator⟩ := exists_body_append line
  have hother : ∀ c ∈ terminator, (c = ' ' || c = '\t') = false := by
    intro c hc
    rcases hterminator c hc with rfl | rfl <;> decide
  calc
    indentation (body line)
      = indentation (body line ++ terminator) :=
        (takeWhile_append_of_forall_not hother _).symm
    _ = indentation line := by rw [← hline]

theorem indentation_concat_newline (line : List Char) :
    indentation (line ++ ['\n']) = indentation line :=
  takeWhile_append_of_forall_not (by simp) line

end Line

end Scaffold.Text
