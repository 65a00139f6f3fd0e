import Mathlib.Data.List.Basic
import Scaffold.Proofs.Patch.Insertion
/-!
# Carriage returns in front of newlines

A patch keeps a text in which every newline has one, except at a last line without a terminator: the
rows behind such a line get newlines alone.
-/

namespace Scaffold

namespace Text

/-- In the text `cs`, standing behind `as`, every newline is right behind a carriage return. -/
def ReturnsAfter (as cs : List Char) : Prop :=
  ∀ before after, cs = before ++ '\n' :: after → (as ++ before).getLast? = some '\r'

/-- Every newline of a text is right behind a carriage return. -/
def HasReturns (cs : List Char) : Prop :=
  ∀ before after, cs = before ++ '\n' :: after → before.getLast? = some '\r'

theorem hasReturns_iff {cs : List Char} : HasReturns cs ↔ ReturnsAfter [] cs :=
  Iff.rfl

theorem returnsAfter_nil (as : List Char) : ReturnsAfter as [] := by
  intro before after h
  simp at h

theorem returnsAfter_cons_iff {as cs : List Char} {c : Char} :
    ReturnsAfter as (c :: cs) ↔
      (c = '\n' → as.getLast? = some '\r') ∧ ReturnsAfter (as ++ [c]) cs := by
  constructor
  · intro h
    constructor
    · rintro rfl
      simpa using h [] cs rfl
    · intro before after hcs
      have hlast := h (c :: before) after (by rw [hcs, List.cons_append])
      rwa [List.append_assoc, List.singleton_append]
  · rintro ⟨hfirst, hrest⟩ before after heq
    cases before with
    | nil =>
        rw [List.append_nil]
        exact hfirst (List.cons.inj heq).1
    | cons b before =>
        obtain ⟨rfl, hcs⟩ := List.cons.inj heq
        have hlast := hrest before after hcs
        rwa [List.append_assoc, List.singleton_append] at hlast

instance decidableReturnsAfter (as : List Char) : (cs : List Char) → Decidable (ReturnsAfter as cs)
  | [] => isTrue (returnsAfter_nil as)
  | c :: cs =>
    have := decidableReturnsAfter (as ++ [c]) cs
    decidable_of_iff _ returnsAfter_cons_iff.symm

instance (cs : List Char) : Decidable (HasReturns cs) :=
  decidable_of_iff _ hasReturns_iff.symm

theorem returnsAfter_append_iff {as bs cs : List Char} :
    ReturnsAfter as (bs ++ cs) ↔ ReturnsAfter as bs ∧ ReturnsAfter (as ++ bs) cs := by
  induction bs generalizing as with
  | nil => simp [returnsAfter_nil]
  | cons b bs ih =>
      rw [List.cons_append, returnsAfter_cons_iff, returnsAfter_cons_iff, ih, and_assoc,
        List.append_assoc, List.singleton_append]

theorem returnsAfter_congr {as bs cs : List Char} (h : as.getLast? = bs.getLast?) :
    ReturnsAfter as cs ↔ ReturnsAfter bs cs := by
  unfold ReturnsAfter
  simp only [List.getLast?_append, h]

theorem returnsAfter_of_notMem {as cs : List Char} (h : '\n' ∉ cs) : ReturnsAfter as cs := by
  rintro before after rfl
  exact absurd (by simp) h

theorem returnsAfter_newline_iff {as : List Char} :
    ReturnsAfter as ['\n'] ↔ as.getLast? = some '\r' := by
  rw [returnsAfter_cons_iff, and_iff_left (returnsAfter_nil _)]
  exact forall_prop_of_true rfl

/-! ## Rows -/

theorem returnsAfter_terminated_rows {as : List Char} {rows : List (List Char)}
    (h : ∀ row ∈ rows, '\n' ∉ row) : ReturnsAfter as (rows.flatMap (· ++ ['\r', '\n'])) := by
  induction rows generalizing as with
  | nil => exact returnsAfter_nil as
  | cons row rows ih =>
      obtain ⟨hrow, hrows⟩ := List.forall_mem_cons.mp h
      have hreturn : '\n' ∉ row ++ ['\r'] := by simp [hrow]
      have hend : row ++ ['\r', '\n'] = (row ++ ['\r']) ++ ['\n'] := by simp
      rw [List.flatMap_cons, returnsAfter_append_iff, hend, returnsAfter_append_iff,
        returnsAfter_newline_iff]
      exact ⟨⟨returnsAfter_of_notMem hreturn, by simp⟩, ih hrows⟩

/-- A newline in front of each row is behind a carriage return only if the text before the rows ends
with one and there is no second row. -/
theorem returnsAfter_newline_rows_iff {as : List Char} {rows : List (List Char)}
    (h : ∀ row ∈ rows, '\r' ∉ row ∧ '\n' ∉ row) :
    ReturnsAfter as (rows.flatMap ('\n' :: ·)) ↔
      rows = [] ∨ as.getLast? = some '\r' ∧ rows.length = 1 := by
  have hfirst {row more : List Char} (hrow : '\n' ∉ row) :
      ReturnsAfter as ('\n' :: row ++ more) ↔
        as.getLast? = some '\r' ∧ ReturnsAfter (as ++ '\n' :: row) more := by
    have hnewline : '\n' :: row = ['\n'] ++ row := rfl
    rw [returnsAfter_append_iff, hnewline, returnsAfter_append_iff, returnsAfter_newline_iff,
      and_iff_left (returnsAfter_of_notMem hrow)]
  match rows with
  | [] => simp [returnsAfter_nil]
  | [row] =>
      rw [List.flatMap_cons, List.flatMap_nil, hfirst (h row List.mem_cons_self).2]
      simp [returnsAfter_nil]
  | row :: next :: rows =>
      obtain ⟨hrow, -⟩ := List.forall_mem_cons.mp h
      -- a row, or the newline before it, stands before the second newline
      have hlast : (as ++ '\n' :: row).getLast? ≠ some '\r' := by
        intro hlast
        have hmem : '\r' ∈ '\n' :: row :=
          List.mem_of_getLast? (by rwa [List.getLast?_append_of_ne_nil _ (by simp)] at hlast)
        simp [hrow.1] at hmem
      rw [List.flatMap_cons, hfirst hrow.2, List.flatMap_cons, List.cons_append,
        returnsAfter_cons_iff]
      exact iff_of_false (fun hreturns => hlast (hreturns.2.1 rfl)) (by simp)

namespace Line

section

variable {cs line : List Char} {earlier later : List (List Char)}

theorem return_suffix_of_hasReturns (h : split cs = earlier ++ line :: later)
    (hcs : HasReturns cs) (hline : line.getLast? = some '\n') : ['\r', '\n'] <:+ line := by
  obtain ⟨init, rfl⟩ := List.getLast?_eq_some_iff.mp hline
  have hlast := hcs (earlier.flatten ++ init) later.flatten (by
    rw [eq_flatten_of_split h]
    simp)
  rw [List.getLast?_append, Option.or_eq_some_iff] at hlast
  rcases hlast with hinit | ⟨-, hearlier⟩
  · obtain ⟨init, rfl⟩ := List.getLast?_eq_some_iff.mp hinit
    exact ⟨init, by simp⟩
  · exact absurd (getLast?_flatten_earlier h _ hearlier) (by decide)

/-- Rows inserted after a line keep the carriage returns of a text exactly if there are none of
them, or the line is terminated, or a carriage return ends the line and there is one row only. -/
theorem hasReturns_insertAfter_iff (h : split cs = earlier ++ line :: later)
    (hcs : HasReturns cs) {rows : List (List Char)}
    (hrows : ∀ row ∈ rows, '\r' ∉ row ∧ '\n' ∉ row) :
    HasReturns (insertAfter cs earlier.length rows) ↔
      rows = [] ∨ line.getLast? = some '\n' ∨ line.getLast? = some '\r' ∧ rows.length = 1 := by
  have hparts := eq_flatten_of_split h ▸ hcs
  rw [hasReturns_iff, returnsAfter_append_iff, List.nil_append] at hparts
  obtain ⟨hbefore, hafter⟩ := hparts
  rw [insertAfter_of_split h, hasReturns_iff, List.append_assoc, returnsAfter_append_iff,
    and_iff_right hbefore, List.nil_append, returnsAfter_append_iff]
  by_cases hline : line.getLast? = some '\n'
  · have hblock : block (ending line) rows = rows.flatMap (· ++ ['\r', '\n']) :=
      (block_ending line rows).1 (return_suffix_of_hasReturns h hcs hline)
    refine iff_of_true ⟨?_, ?_⟩ (.inr (.inl hline))
    · rw [hblock]
      exact returnsAfter_terminated_rows fun row hrow => (hrows row hrow).2
    · -- a newline stands before the later lines, as it did without the rows
      refine (returnsAfter_congr ?_).mpr hafter
      have hend : (block (ending line) rows).getLast? = none ∨
          (block (ending line) rows).getLast? = some '\n' := by
        rw [hblock]
        rcases List.eq_nil_or_concat rows with rfl | ⟨init, last, rfl⟩
        · exact .inl rfl
        · exact .inr (by simp)
      rcases hend with hend | hend
      · simp [List.getLast?_append, hend]
      · simp [List.getLast?_append, hend, hline]
  · have hne : line ≠ [] := (lines_split cs).ne_nil line (by simp [h])
    rw [later_eq_nil h hline, ending_of_unterminated hline, List.flatten_nil,
      and_iff_left (returnsAfter_nil _)]
    change ReturnsAfter _ (rows.flatMap ('\n' :: ·)) ↔ _
    rw [returnsAfter_newline_rows_iff hrows, List.getLast?_append_of_ne_nil _ hne]
    simp [hline]

end

end Line

end Text

namespace Patch

open Text

theorem notMem_rows {request : Request} {c : Char} (hblank : c ≠ ' ' ∧ c ≠ '\t')
    (hindent : c ∉ request.indent.toList) (hpayload : ∀ row ∈ request.payload, c ∉ row.toList)
    (line : List Char) : ∀ row ∈ request.rows (Line.indentation line), c ∉ row := by
  have hbase : c ∉ Line.indentation line := by
    intro hmem
    have hc := List.mem_takeWhile_imp hmem
    simp [hblank] at hc
  refine List.forall_mem_map.mpr fun given hgiven => ?_
  rw [row]
  split
  · exact List.not_mem_nil
  · simp [hbase, hindent, hpayload given hgiven]

variable {request : Request} {content : String} {outcome : Outcome}

/-- A text in which every newline is behind a carriage return, patched with rows that hold neither:
the same is true of the patched text exactly if there are no rows, or the line of the anchor is
terminated, or that line ends with a carriage return alone and there is one row. A line that is not
terminated is the last one, and each row goes behind a newline there. -/
theorem returns_kept_iff (h : request.apply content = .ok outcome)
    (hcontent : HasReturns content.toList)
    (hpayload : ∀ row ∈ request.payload, '\r' ∉ row.toList ∧ '\n' ∉ row.toList)
    (hindent : '\r' ∉ request.indent.toList ∧ '\n' ∉ request.indent.toList) :
    ∃ line, (Line.split content.toList)[outcome.line]? = some line ∧
      (HasReturns outcome.content.toList ↔
        request.payload = [] ∨ line.getLast? = some '\n' ∨
          line.getLast? = some '\r' ∧ request.payload.length = 1) ∧
      (line.getLast? ≠ some '\n' →
        outcome.line + 1 = (Line.split content.toList).length ∧
        outcome.content.toList =
          content.toList ++ (request.rows (Line.indentation line)).flatMap ('\n' :: ·)) := by
  obtain ⟨earlier, line, later, hsplit, hlength, -, -, hpatched⟩ := exists_split_of_apply_eq_ok h
  have hrows : ∀ row ∈ request.rows (Line.indentation line), '\r' ∉ row ∧ '\n' ∉ row :=
    fun row hrow =>
      ⟨notMem_rows (by decide) hindent.1 (fun row hrow => (hpayload row hrow).1) line row hrow,
        notMem_rows (by decide) hindent.2 (fun row hrow => (hpayload row hrow).2) line row hrow⟩
  have hkept := Line.hasReturns_insertAfter_iff hsplit hcontent hrows
  rw [hpatched, String.toList_ofList, ← hlength]
  refine ⟨line, by simp [hsplit], ?_, fun hline => ⟨?_, ?_⟩⟩
  · rw [hkept, Request.rows, List.map_eq_nil_iff, List.length_map]
  · rw [hsplit, Line.later_eq_nil hsplit hline]
    simp
  · rw [Line.insertAfter_of_split hsplit, Line.ending_of_unterminated hline,
      Line.later_eq_nil hsplit hline, Line.eq_flatten_of_split hsplit, Line.later_eq_nil hsplit hline]
    simp [Line.block]

/-- A blank row and another one behind a line in the middle, at a fallback anchor. -/
theorem returns_kept_in_the_middle :
    let old : Anchor := ⟨"if app", some "old"⟩
    let request : Request := ⟨"app.go", ⟨"once.Do(", none⟩, [old], ["use(a)", ""], "\t"⟩
    let outcome : Outcome := ⟨"f\r\n  if app\r\n  \tuse(a)\r\n\r\ng", 1, old, 1,
      some ⟨"app.go", "if app", some "old"⟩⟩
    request.apply "f\r\n  if app\r\ng" = .ok outcome ∧
    HasReturns "f\r\n  if app\r\ng".toList ∧
    (∀ row ∈ request.payload, '\r' ∉ row.toList ∧ '\n' ∉ row.toList) ∧
    ('\r' ∉ request.indent.toList ∧ '\n' ∉ request.indent.toList) ∧
    HasReturns outcome.content.toList := by
  intro old request outcome
  have happly : request.apply "f\r\n  if app\r\ng" = .ok outcome := by cbv
  have hcontent : HasReturns "f\r\n  if app\r\ng".toList := by decide
  have hpayload : ∀ row ∈ request.payload, '\r' ∉ row.toList ∧ '\n' ∉ row.toList := by decide
  have hindent : '\r' ∉ request.indent.toList ∧ '\n' ∉ request.indent.toList := by decide
  obtain ⟨line, hline, hkept, -⟩ := returns_kept_iff happly hcontent hpayload hindent
  have hanchor : (Line.split "f\r\n  if app\r\ng".toList)[1]? = some "  if app\r\n".toList := by
    decide
  obtain rfl := Option.some.inj (hline.symm.trans hanchor)
  exact ⟨happly, hcontent, hpayload, hindent, hkept.mpr (.inr (.inl rfl))⟩

/-- Behind a last line without a terminator a row gets a newline alone. -/
theorem last_line_gets_newline_alone :
    let request : Request := ⟨"app.go", ⟨"if app", none⟩, [], ["use(a)"], "\t"⟩
    let outcome : Outcome := ⟨"f\r\nif app\n\tuse(a)", 0, ⟨"if app", none⟩, 1, none⟩
    request.apply "f\r\nif app" = .ok outcome ∧
    HasReturns "f\r\nif app".toList ∧ ¬ HasReturns outcome.content.toList ∧
    ¬ ∀ (request : Request) (content : String) (outcome : Outcome),
      HasReturns content.toList →
      (∀ row ∈ request.payload, '\r' ∉ row.toList ∧ '\n' ∉ row.toList) →
      ('\r' ∉ request.indent.toList ∧ '\n' ∉ request.indent.toList) →
      request.apply content = .ok outcome → HasReturns outcome.content.toList := by
  intro request outcome
  have happly : request.apply "f\r\nif app" = .ok outcome := by cbv
  have hcontent : HasReturns "f\r\nif app".toList := by decide
  have hlost : ¬ HasReturns outcome.content.toList := by decide
  refine ⟨happly, hcontent, hlost, fun hkeep => hlost ?_⟩
  exact hkeep request _ outcome hcontent (by decide) (by decide) happly

end Patch

end Scaffold
