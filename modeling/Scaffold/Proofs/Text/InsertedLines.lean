import Mathlib.Data.List.Basic
import Scaffold.Proofs.Text.Insertion
/-!
# Inserted rows, line by line

A text with inserted rows, seen line by line. The lines keep their order, the rows come in between
as lines of their own, and only an empty row at the very end of the text is no line.
-/

namespace Scaffold.Text.Line

/-! ## Lines without their terminators -/

theorem get?_eq_getElem? (cs : List Char) (index : Nat) :
    get? cs index = ((split cs).map body)[index]? :=
  (List.getElem?_map).symm

theorem body_append {terminator : List Char} (h : ∀ c ∈ terminator, c = '\n' ∨ c = '\r')
    (line : List Char) : body (line ++ terminator) = body line := by
  rw [body, body, List.reverse_append, List.dropWhile_append_of_pos]
  intro c hc
  simpa using h c (List.mem_reverse.mp hc)

theorem body_of_notMem {row : List Char} (hnewline : '\n' ∉ row) (hreturn : '\r' ∉ row) :
    body row = row := by
  have hrow : row.reverse.dropWhile (fun c => c = '\n' || c = '\r') = row.reverse := by
    cases hreverse : row.reverse with
    | nil => rfl
    | cons c cs =>
        have hmem : c ∈ row := by
          rw [← List.mem_reverse, hreverse]
          exact List.mem_cons_self
        have hc : c ≠ '\n' ∧ c ≠ '\r' :=
          ⟨ne_of_mem_of_not_mem hmem hnewline, ne_of_mem_of_not_mem hmem hreturn⟩
        exact List.dropWhile_cons_of_neg (by simpa using hc)
  rw [body, hrow, List.reverse_reverse]

theorem split_row_append {row terminator : List Char} (hrow : '\n' ∉ row)
    (hterminator : terminator = ['\r', '\n'] ∨ terminator = ['\n']) (bs : List Char) :
    split (row ++ terminator ++ bs) = (row ++ terminator) :: split bs := by
  rcases hterminator with rfl | rfl
  · have hend : row ++ ['\r', '\n'] = (row ++ ['\r']) ++ ['\n'] := by simp
    rw [hend, split_append (by simp), split_concat_newline (by simpa using hrow),
      List.singleton_append]
  · rw [split_append (by simp), split_concat_newline hrow, List.singleton_append]

/-! ## The lines of the rows -/

/-- The rows that are lines after they are inserted behind a line: all of them, except an empty one
at the very end of the text. -/
def shownRows (line : List Char) (rows : List (List Char)) : List (List Char) :=
  if line.getLast? ≠ some '\n' ∧ rows.getLast? = some [] then rows.dropLast else rows

theorem shownRows_of_terminated {line : List Char} (h : line.getLast? = some '\n')
    (rows : List (List Char)) : shownRows line rows = rows := by
  rw [shownRows, if_neg (by simp [h])]

theorem shownRows_of_unterminated {line : List Char} (h : line.getLast? ≠ some '\n')
    (rows : List (List Char)) :
    shownRows line rows = if rows.getLast? = some [] then rows.dropLast else rows := by
  simp only [shownRows, h, ne_eq, not_false_eq_true, true_and]

theorem length_shownRows_le (line : List Char) (rows : List (List Char)) :
    (shownRows line rows).length ≤ rows.length := by
  unfold shownRows
  split
  · exact (List.dropLast_sublist rows).length_le
  · exact le_rfl

theorem getElem?_shownRows {line row : List Char} {rows : List (List Char)} {k : Nat}
    (hline : line.getLast? ≠ some '\n') (h : rows[k]? = some row) :
    (shownRows line rows)[k]? = if row = [] ∧ k + 1 = rows.length then none else some row := by
  obtain ⟨hk, rfl⟩ := List.getElem?_eq_some_iff.mp h
  rw [shownRows_of_unterminated hline]
  split
  · next hlast =>
      rw [List.getElem?_dropLast]
      by_cases hend : k + 1 = rows.length
      · -- the row in question is the one that is left out
        have hrow : rows[k] = [] := by
          rw [List.getLast?_eq_getElem?, ← hend, Nat.add_sub_cancel, h] at hlast
          exact Option.some.inj hlast
        rw [if_neg (by omega), if_pos ⟨hrow, hend⟩]
      · rw [if_pos (by omega), if_neg (by simp [hend]), h]
  · next hlast =>
      rw [h, if_neg]
      rintro ⟨hrow, hend⟩
      rw [List.getLast?_eq_getElem?, ← hend, Nat.add_sub_cancel, h, hrow] at hlast
      exact hlast rfl

section

variable {line : List Char} {rows others : List (List Char)}
  (hothers : line.getLast? ≠ some '\n' → others = [])

include hothers

theorem getElem?_shownRows_append {row : List Char} {k : Nat} (h : rows[k]? = some row) :
    (shownRows line rows ++ others)[k]? =
      if line.getLast? ≠ some '\n' ∧ row = [] ∧ k + 1 = rows.length then none else some row := by
  by_cases hline : line.getLast? = some '\n'
  · obtain ⟨hk, -⟩ := List.getElem?_eq_some_iff.mp h
    rw [shownRows_of_terminated hline, List.getElem?_append_left hk, h, if_neg (by simp [hline])]
  · simp only [hothers hline, List.append_nil, getElem?_shownRows hline h, hline, ne_eq,
      not_false_eq_true, true_and]

theorem getElem?_append_shownRows (j : Nat) :
    (shownRows line rows ++ others)[rows.length + j]? = others[j]? := by
  by_cases hline : line.getLast? = some '\n'
  · rw [shownRows_of_terminated hline, List.getElem?_append_right (Nat.le_add_right _ _),
      Nat.add_sub_cancel_left]
  · have hlength := length_shownRows_le line rows
    rw [hothers hline, List.append_nil, List.getElem?_nil, List.getElem?_eq_none_iff]
    omega

end

section

variable {rows : List (List Char)}

theorem map_body_split_terminated_rows (hrows : ∀ row ∈ rows, '\n' ∉ row ∧ '\r' ∉ row)
    {terminator : List Char} (hterminator : terminator = ['\r', '\n'] ∨ terminator = ['\n'])
    (bs : List Char) :
    (split (rows.flatMap (· ++ terminator) ++ bs)).map body = rows ++ (split bs).map body := by
  induction rows with
  | nil => rfl
  | cons row rows ih =>
      obtain ⟨hrow, hrest⟩ := List.forall_mem_cons.mp hrows
      have hends : ∀ c ∈ terminator, c = '\n' ∨ c = '\r' := by
        rcases hterminator with rfl | rfl <;> simp
      rw [List.flatMap_cons, List.append_assoc, split_row_append hrow.1 hterminator, List.map_cons,
        body_append hends, body_of_notMem hrow.1 hrow.2, ih hrest, List.cons_append]

theorem map_body_split_newline_rows {row : List Char}
    (hrows : ∀ other ∈ row :: rows, '\n' ∉ other ∧ '\r' ∉ other) :
    (split (row ++ rows.flatMap ('\n' :: ·))).map body =
      if (row :: rows).getLast? = some [] then (row :: rows).dropLast else row :: rows := by
  induction rows generalizing row with
  | nil =>
      obtain ⟨hnewline, hreturn⟩ := hrows row List.mem_cons_self
      by_cases hrow : row = []
      · subst hrow
        rfl
      · rw [List.flatMap_nil, List.append_nil, split_of_notMem hrow hnewline, List.map_singleton,
          body_of_notMem hnewline hreturn, if_neg (by simpa using hrow)]
  | cons next rows ih =>
      obtain ⟨⟨hnewline, hreturn⟩, hrest⟩ := List.forall_mem_cons.mp hrows
      have htext : row ++ (next :: rows).flatMap ('\n' :: ·) =
          row ++ ['\n'] ++ (next ++ rows.flatMap ('\n' :: ·)) := by simp
      rw [htext, split_row_append hnewline (.inr rfl), List.map_cons, body_append (by simp),
        body_of_notMem hnewline hreturn, ih hrest, List.getLast?_cons_cons, List.dropLast_cons_cons]
      split <;> rfl

end

/-! ## The lines of the text -/

section Around

variable {cs line : List Char} {earlier later rows : List (List Char)}

theorem split_flatten_later (h : split cs = earlier ++ line :: later)
    (hline : line.getLast? = some '\n') : split later.flatten = later := by
  have hwhole := split_insertAfter_of_terminated h hline []
  rw [insertAfter_nil, h, block_nil, List.nil_append, List.append_cancel_left_eq,
    List.cons.injEq] at hwhole
  exact hwhole.2.symm

/-- The rows stand between the lines, each as a line of its own. -/
theorem map_body_split_insertAfter (h : split cs = earlier ++ line :: later)
    (hrows : ∀ row ∈ rows, '\n' ∉ row ∧ '\r' ∉ row) :
    (split (insertAfter cs earlier.length rows)).map body =
      earlier.map body ++ body line :: (shownRows line rows ++ later.map body) := by
  by_cases hline : line.getLast? = some '\n'
  · have hterminator := ending_of_terminated hline
    have hne : ending line ≠ [] := by rcases hterminator with h | h <;> simp [h]
    rw [split_insertAfter_of_terminated h hline, List.map_append, List.map_cons,
      block_of_ne_nil hne, map_body_split_terminated_rows hrows hterminator,
      split_flatten_later h hline, shownRows_of_terminated hline]
  · rw [later_eq_nil h hline, List.map_nil, List.append_nil, shownRows_of_unterminated hline]
    cases rows with
    | nil => rw [insertAfter_nil, h, later_eq_nil h hline, List.map_append]; rfl
    | cons row rows =>
        rw [split_insertAfter_of_unterminated h hline, List.map_append, List.map_cons,
          body_append (by simp), map_body_split_newline_rows hrows]

theorem getLast?_block_or (hline : line.getLast? = some '\n') (rows : List (List Char)) :
    (block (ending line) rows).getLast?.or (some '\n') = some '\n' := by
  rcases List.eq_nil_or_concat rows with rfl | ⟨init, last, rfl⟩
  · rw [block_nil, List.getLast?_nil, Option.none_or]
  · rcases ending_of_terminated hline with hend | hend <;> simp [hend, block]

/-- Rows leave a text with a newline at its end, or without one, unless an empty row ends it. -/
theorem getLast?_insertAfter_iff (h : split cs = earlier ++ line :: later)
    (hrows : ∀ row ∈ rows, '\n' ∉ row ∧ '\r' ∉ row) :
    (insertAfter cs earlier.length rows).getLast? = some '\n' ↔
      cs.getLast? = some '\n' ∨ line.getLast? ≠ some '\n' ∧ rows.getLast? = some [] := by
  have hcs := eq_flatten_of_split h
  by_cases hline : line.getLast? = some '\n'
  · have hlast : (insertAfter cs earlier.length rows).getLast? = cs.getLast? := by
      rw [insertAfter_of_split h, hcs]
      simp only [List.getLast?_append, hline, Option.some_or, getLast?_block_or hline]
    rw [hlast]
    simp [hline]
  · have hne : line ≠ [] := (lines_split cs).ne_nil line (by simp [h])
    rw [later_eq_nil h hline, List.flatten_nil, List.append_nil] at hcs
    have hend : cs.getLast? = line.getLast? := by rw [hcs, List.getLast?_append_of_ne_nil _ hne]
    rcases List.eq_nil_or_concat rows with rfl | ⟨init, last, rfl⟩
    · simp [insertAfter_nil]
    · have hlast := (hrows last (by simp)).1
      have htext : insertAfter cs earlier.length (init.concat last) =
          cs ++ init.flatMap ('\n' :: ·) ++ '\n' :: last := by
        rw [insertAfter_of_split h, ending_of_unterminated hline, later_eq_nil h hline, hcs]
        simp [block]
      rw [htext, hend, List.concat_eq_append, List.getLast?_concat]
      by_cases hempty : last = []
      · simp [hempty, hline]
      · have hend : last.getLast? ≠ some '\n' := fun hmem => hlast (List.mem_of_getLast? hmem)
        obtain ⟨c, last, rfl⟩ := List.exists_cons_of_ne_nil hempty
        rw [List.getLast?_append_of_ne_nil _ (List.cons_ne_nil _ _), List.getLast?_cons_cons]
        exact iff_of_false hend (by simp [hline])

end Around

/-- Rows inserted after a line, seen line by line. The lines up to it are as they were, the rows
follow, and then the later lines; an empty row that ends the text is no line, and it is the only one
that gives a text a newline at its end. Inserted twice, the later rows come first, unless the line
ends with a carriage return that a newline would complete. Rows after no line are not inserted. -/
theorem insertion_line_by_line {rows : List (List Char)}
    (hrows : ∀ row ∈ rows, '\n' ∉ row ∧ '\r' ∉ row) (cs : List Char) (index : Nat) :
    let new := insertAfter cs index rows
    (∀ line, (split cs)[index]? = some line →
      (∀ i ≤ index, get? new i = get? cs i) ∧
      (∀ k row, rows[k]? = some row → get? new (index + 1 + k) =
        if line.getLast? ≠ some '\n' ∧ row = [] ∧ k + 1 = rows.length then none else some row) ∧
      (∀ j, get? new (index + 1 + rows.length + j) = get? cs (index + 1 + j)) ∧
      (new.getLast? = some '\n' ↔
        cs.getLast? = some '\n' ∨ line.getLast? ≠ some '\n' ∧ rows.getLast? = some []) ∧
      (line.getLast? ≠ some '\r' →
        ∀ more, insertAfter new index more = insertAfter cs index (more ++ rows))) ∧
    ((split cs).length ≤ index → new = cs) := by
  intro new
  refine ⟨fun line hline => ?_, fun hindex => ?_⟩
  · obtain ⟨earlier, later, h, rfl⟩ := exists_split_of_getElem? hline
    have hold : (split cs).map body = earlier.map body ++ body line :: later.map body := by
      rw [h, List.map_append, List.map_cons]
    have hnew := map_body_split_insertAfter h hrows
    have hlater (hend : line.getLast? ≠ some '\n') : later.map body = [] := by
      rw [later_eq_nil h hend, List.map_nil]
    have hbehind (first : List Char) (rest : List (List Char)) (k : Nat) :
        (earlier.map body ++ first :: rest)[earlier.length + 1 + k]? = rest[k]? := by
      rw [List.getElem?_append_right (by simp; omega), List.length_map, Nat.add_assoc,
        Nat.add_sub_cancel_left, Nat.add_comm 1, List.getElem?_cons_succ]
    simp only [get?_eq_getElem?, new, hnew, hold]
    refine ⟨fun i hi => ?_, fun k row hrow => ?_, fun j => ?_, getLast?_insertAfter_iff h hrows,
      fun hreturn more => ?_⟩
    · rcases hi.lt_or_eq with hi | rfl
      · rw [List.getElem?_append_left (by simpa using hi),
          List.getElem?_append_left (by simpa using hi)]
      · simp
    · rw [hbehind, getElem?_shownRows_append hlater hrow]
    · rw [Nat.add_assoc, hbehind, getElem?_append_shownRows hlater, hbehind]
    · refine insertAfter_insertAfter (fun other hother => ?_) rows more
      obtain rfl := Option.some.inj (hline.symm.trans hother)
      exact hreturn
  · exact insertAfter_of_getElem?_eq_none (List.getElem?_eq_none hindex) rows

/-- Two rows after a last line without a newline, the second of them empty. -/
theorem rows_after_last_line :
    let cs := "a\r\nb".toList
    let rows := ["x".toList, []]
    let new := "a\r\nb\nx\n".toList
    (∀ row ∈ rows, '\n' ∉ row ∧ '\r' ∉ row) ∧ insertAfter cs 1 rows = new ∧
      get? new 0 = get? cs 0 ∧ get? new 1 = get? cs 1 ∧ get? new 2 = some ['x'] ∧
      get? new 3 = none ∧ new.getLast? = some '\n' ∧
      insertAfter new 1 [['y']] = insertAfter cs 1 (['y'] :: rows) := by
  intro cs rows new
  have hrows : ∀ row ∈ rows, '\n' ∉ row ∧ '\r' ∉ row := by decide
  have hnew : insertAfter cs 1 rows = new := by decide
  have hline : (split cs)[1]? = some ['b'] := by decide
  obtain ⟨hkept, hshown, -, hend, htwice⟩ := (insertion_line_by_line hrows cs 1).1 ['b'] hline
  rw [hnew] at hkept hshown hend htwice
  exact ⟨hrows, hnew, hkept 0 (by decide), hkept 1 (by decide), hshown 0 ['x'] rfl,
    hshown 1 [] rfl, hend.mpr (by decide), htwice (by decide) [['y']]⟩

end Scaffold.Text.Line
