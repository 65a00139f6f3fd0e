import Scaffold.Proofs.Patch.Anchors
import Scaffold.Proofs.Text.Insertion
/-!
# The patched text

What a patch does to a text. It inserts one block of rows right after the first line that holds the
first anchor found and keeps everything else, and the same request applied again finds the same
anchor at the same line.
-/

namespace Scaffold.Patch

open Text

variable {request : Request} {content : String} {outcome : Outcome}

/-! ## One patch -/

theorem elim_get?_indentation {cs line : List Char} {index : Nat}
    (h : (Line.split cs)[index]? = some line) :
    (Line.get? cs index).elim [] Line.indentation = Line.indentation line := by
  rw [Line.get?, h]
  exact Line.indentation_body line

/-- A patch that succeeds inserts its rows after the first line that holds its anchor. -/
theorem exists_split_of_apply_eq_ok (h : request.apply content = .ok outcome) :
    ∃ earlier line later, Line.split content.toList = earlier ++ line :: later ∧
      earlier.length = outcome.line ∧ outcome.anchor.marker.toList <:+: line ∧
      (∀ other ∈ earlier, ¬ outcome.anchor.marker.toList <:+: other) ∧
      outcome.content = String.ofList (Line.insertAfter content.toList outcome.line
        (request.rows (Line.indentation line))) := by
  obtain ⟨-, hfind, -⟩ := anchor_of_apply_eq_ok h
  obtain ⟨-, hcontent, -⟩ := exists_locate?_of_apply_eq_ok h
  obtain ⟨earlier, line, later, hsplit, hlength, hfound, hearlier⟩ :=
    Line.find?_eq_some_iff.mp hfind
  have hline : (Line.split content.toList)[outcome.line]? = some line := by
    simp [hsplit, ← hlength]
  rw [elim_get?_indentation hline] at hcontent
  exact ⟨earlier, line, later, hsplit, hlength, hfound, hearlier, hcontent⟩

theorem marker_infix_of_apply_eq_ok (h : request.apply content = .ok outcome) :
    outcome.anchor.marker.toList <:+: outcome.content.toList := by
  obtain ⟨earlier, line, later, hsplit, hlength, hfound, -, hcontent⟩ :=
    exists_split_of_apply_eq_ok h
  rw [hcontent, String.toList_ofList, ← hlength, Line.insertAfter_of_split hsplit]
  have hline : line <:+: earlier.flatten ++ line := (List.suffix_append _ _).isInfix
  simp only [List.append_assoc]
  rw [← List.append_assoc]
  exact hfound.trans (hline.trans (List.prefix_append _ _).isInfix)

/-- A patch fails exactly when no line holds a marker. Otherwise it takes the first anchor, in order
of priority, that some line holds, and the first line that holds it, and puts the payload behind
that line, with its indentation and its terminator. -/
theorem apply_inserts_one_block (request : Request) (content : String) :
    let lines := Line.split content.toList
    (lines.flatten = content.toList ∧ (∀ line ∈ lines, line ≠ [] ∧ '\n' ∉ line.dropLast) ∧
      ∀ line ∈ lines.dropLast, line.getLast? = some '\n') ∧
    ((∀ anchor ∈ request.anchors, ∀ line ∈ lines, ¬ anchor.marker.toList <:+: line) →
      request.apply content =
        .error (.anchorNotFound request.target (request.anchors.map (·.marker)))) ∧
    ((∃ anchor ∈ request.anchors, ∃ line ∈ lines, anchor.marker.toList <:+: line) →
      ∃ outcome earlier line later block,
        let rows := request.payload.map fun row =>
          if row.toList.all isBlank then []
          else line.takeWhile (fun c => c = ' ' || c = '\t') ++ request.indent.toList ++ row.toList
        request.apply content = .ok outcome ∧
        request.anchors[outcome.anchorIndex]? = some outcome.anchor ∧
        (∀ other ∈ request.anchors.take outcome.anchorIndex,
          ∀ line ∈ lines, ¬ other.marker.toList <:+: line) ∧
        lines = earlier ++ line :: later ∧
        earlier.length = outcome.line ∧
        outcome.anchor.marker.toList <:+: line ∧
        (∀ other ∈ earlier, ¬ outcome.anchor.marker.toList <:+: other) ∧
        outcome.warning =
          (if outcome.anchorIndex = 0 then none
          else some ⟨request.target, outcome.anchor.marker, outcome.anchor.note⟩) ∧
        content.toList = earlier.flatten ++ line ++ later.flatten ∧
        outcome.content.toList = earlier.flatten ++ line ++ block ++ later.flatten ∧
        (request.payload = [] → block = []) ∧
        (['\r', '\n'] <:+ line → block = rows.flatMap (· ++ ['\r', '\n'])) ∧
        (['\n'] <:+ line → ¬ ['\r', '\n'] <:+ line → block = rows.flatMap (· ++ ['\n'])) ∧
        (¬ ['\n'] <:+ line → later = [] ∧ block = rows.flatMap (['\n'] ++ ·))) := by
  intro lines
  have hlines := Line.lines_split content.toList
  refine ⟨⟨Line.flatten_split _, ?_, hlines.terminated⟩, ?_, ?_⟩
  · exact fun line hline => ⟨hlines.ne_nil line hline, hlines.newline_notMem line hline⟩
  · intro hnone
    refine apply_of_locate?_eq_none (locate?_eq_none_iff.mpr fun anchor hanchor => ?_)
    exact Line.find?_eq_none_iff.mpr (hnone anchor hanchor)
  · intro hsome
    obtain ⟨outcome, hok⟩ := exists_apply_eq_ok_iff.mpr hsome
    obtain ⟨hanchor, -, hearlier⟩ := anchor_of_apply_eq_ok hok
    obtain ⟨-, -, hwarning⟩ := exists_locate?_of_apply_eq_ok hok
    obtain ⟨earlier, line, later, hsplit, hlength, hfound, hbefore, hcontent⟩ :=
      exists_split_of_apply_eq_ok hok
    rw [← hlength, Line.insertAfter_of_split hsplit] at hcontent
    let rows := request.rows (Line.indentation line)
    obtain ⟨hreturn, hnewline, hbare⟩ := Line.block_ending line rows
    refine ⟨outcome, earlier, line, later, Line.block (Line.ending line) rows, hok, hanchor, ?_,
      hsplit, hlength, hfound, hbefore, hwarning, Line.eq_flatten_of_split hsplit, ?_, ?_, hreturn,
      hnewline, ?_⟩
    · exact fun other hother => Line.find?_eq_none_iff.mp (hearlier other hother)
    · rw [hcontent, String.toList_ofList]
    · intro hpayload
      have hrows : rows = [] := by simp [rows, Request.rows, hpayload]
      rw [hrows, Line.block_nil]
    · exact fun hend => ⟨Line.later_eq_nil hsplit (mt Line.newline_suffix_iff.mpr hend), hbare hend⟩

/-! ## The same patch again -/

theorem locate?_eq_some_of_getElem? {content : List Char} {start i line : Nat}
    {anchors : List Anchor} {anchor : Anchor} (hanchor : anchors[i]? = some anchor)
    (hline : Line.find? anchor.marker.toList content = some line)
    (hearlier : ∀ other ∈ anchors.take i, Line.find? other.marker.toList content = none) :
    locate? content start anchors = some (start + i, anchor, line) := by
  induction anchors generalizing start i with
  | nil => cases hanchor
  | cons first anchors ih =>
      cases i with
      | zero =>
          obtain rfl := Option.some.inj hanchor
          rw [locate?, hline]
          rfl
      | succ i =>
          rw [List.take_succ_cons] at hearlier
          rw [locate?, hearlier first List.mem_cons_self]
          dsimp only
          rw [ih (by simpa using hanchor) fun other hother =>
            hearlier other (List.mem_cons_of_mem _ hother), Nat.add_right_comm, Nat.add_assoc]

theorem locate?_insertAfter (h : request.apply content = .ok outcome) {rows : List (List Char)}
    (hearlier : ∀ other ∈ request.anchors.take outcome.anchorIndex,
      '\n' ∉ other.marker.toList ∧ '\r' ∉ other.marker.toList ∧
      ∀ row ∈ rows, ¬ other.marker.toList <:+: row) :
    locate? (Line.insertAfter content.toList outcome.line rows) 0 request.anchors =
      some (outcome.anchorIndex, outcome.anchor, outcome.line) := by
  obtain ⟨hanchor, hfind, hnone⟩ := anchor_of_apply_eq_ok h
  rw [← Nat.zero_add outcome.anchorIndex]
  refine locate?_eq_some_of_getElem? hanchor (Line.find?_insertAfter hfind _) ?_
  intro other hother
  obtain ⟨hnewline, hreturn, hrows⟩ := hearlier other hother
  exact Line.find?_insertAfter_eq_none hnewline hreturn (hnone other hother) _ hrows

theorem elim_get?_insertAfter {cs line : List Char} {index : Nat}
    (h : (Line.split cs)[index]? = some line) (rows : List (List Char)) :
    (Line.get? (Line.insertAfter cs index rows) index).elim [] Line.indentation =
      Line.indentation line := by
  obtain ⟨earlier, later, hsplit, rfl⟩ := Line.exists_split_of_getElem? h
  obtain ⟨kept, rest, hinserted, hkept⟩ := Line.exists_split_insertAfter hsplit rows
  have hline : (Line.split (Line.insertAfter cs earlier.length rows))[earlier.length]? =
      some kept := by
    rw [hinserted]
    simp
  rw [elim_get?_indentation hline]
  rcases hkept with rfl | rfl
  · rfl
  · exact Line.indentation_concat_newline line

/-- A text with the rows of a request inserted some times in a row after one of its lines. -/
def Request.repeated (request : Request) (content : String) (index : Nat) (line : List Char)
    (times : Nat) : String :=
  String.ofList (Line.insertAfter content.toList index
    (List.replicate times (request.rows (Line.indentation line))).flatten)

theorem repeated_zero (request : Request) (content : String) (index : Nat) (line : List Char) :
    request.repeated content index line 0 = content := by
  rw [Request.repeated, List.replicate_zero, List.flatten_nil, Line.insertAfter_nil,
    String.ofList_toList]

/-- A patched text is patched again at the same line, because neither the line nor what stands
before it has changed, and the rows do not hold an anchor that would come first. -/
theorem apply_repeated (h : request.apply content = .ok outcome) {line : List Char}
    (hline : (Line.split content.toList)[outcome.line]? = some line)
    (hreturn : line.getLast? ≠ some '\r')
    (hearlier : ∀ other ∈ request.anchors.take outcome.anchorIndex,
      '\n' ∉ other.marker.toList ∧ '\r' ∉ other.marker.toList ∧
      ∀ row ∈ request.rows (Line.indentation line), ¬ other.marker.toList <:+: row)
    (times : Nat) :
    request.apply (request.repeated content outcome.line line times) =
      .ok { outcome with
        content := request.repeated content outcome.line line (times + 1) } := by
  obtain ⟨-, -, hwarning⟩ := exists_locate?_of_apply_eq_ok h
  let rows := request.rows (Line.indentation line)
  have htext : (request.repeated content outcome.line line times).toList =
      Line.insertAfter content.toList outcome.line (List.replicate times rows).flatten :=
    String.toList_ofList
  have hlocate : locate? (request.repeated content outcome.line line times).toList 0
      request.anchors = some (outcome.anchorIndex, outcome.anchor, outcome.line) := by
    rw [htext]
    refine locate?_insertAfter h fun other hother => ?_
    obtain ⟨hnewline, hcarriage, hrows⟩ := hearlier other hother
    refine ⟨hnewline, hcarriage, fun row hrow => ?_⟩
    obtain ⟨_, hcopy, hrow⟩ := List.mem_flatten.mp hrow
    obtain rfl := List.eq_of_mem_replicate hcopy
    exact hrows row hrow
  have hcontent : Line.insertAfter (Line.insertAfter content.toList outcome.line
      (List.replicate times rows).flatten) outcome.line rows =
      Line.insertAfter content.toList outcome.line (List.replicate (times + 1) rows).flatten := by
    rw [Line.insertAfter_insertAfter, List.replicate_succ, List.flatten_cons]
    intro other hother
    obtain rfl := Option.some.inj (hline.symm.trans hother)
    exact hreturn
  rw [apply_of_locate?_eq_some hlocate, htext, elim_get?_insertAfter hline, hcontent, hwarning]
  rfl

end Scaffold.Patch
