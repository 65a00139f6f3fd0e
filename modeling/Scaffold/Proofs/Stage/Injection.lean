import Scaffold.Proofs.Stage
import Scaffold.Proofs.Text.Insertion
/-!
# Injected rows

Rows injected into a draft. Only the draft at the target changes, and only by one block of rows
behind the first line that holds the marker; without such a line, or without a text, it fails.
-/

namespace Scaffold

open Text

namespace Stage

variable {draft : Draft} {target marker text : String} {rows : List String}

theorem insertRows?_eq_none_iff :
    insertRows? marker rows text = none ↔
      ∀ line ∈ Line.split text.toList, ¬ marker.toList <:+: line := by
  rw [insertRows?, Option.map_eq_none_iff, Line.find?_eq_none_iff]

theorem insertRows?_of_split {earlier later : List (List Char)} {line : List Char}
    (hsplit : Line.split text.toList = earlier ++ line :: later) (hfound : marker.toList <:+: line)
    (hearlier : ∀ other ∈ earlier, ¬ marker.toList <:+: other) (rows : List String) :
    insertRows? marker rows text =
      some (String.ofList (earlier.flatten ++ line ++
        Line.block (Line.ending line) (rows.map String.toList) ++ later.flatten)) := by
  have hline : Line.find? marker.toList text.toList = some earlier.length :=
    Line.find?_eq_some_iff.mpr ⟨earlier, line, later, hsplit, rfl, hfound, hearlier⟩
  rw [insertRows?, hline, Option.map_some, Line.insertAfter_of_split hsplit]

/-- At the target an injection fails without a text, and without a line for its rows. -/
theorem inject_eq_error_iff (hat : draft.isAt target = true) :
    (injection target marker rows).apply draft =
        .error (.markerNotFound draft.path.toSlash marker) ↔
      ¬ draft.content.IsValidUTF8 ∨
        ∃ text : String, text.toUTF8 = draft.content ∧
          ∀ line ∈ Line.split text.toList, ¬ marker.toList <:+: line := by
  rw [← Draft.text?_eq_none_iff]
  cases htext : draft.text? with
  | none => simp [inject_of_none hat, htext]
  | some text =>
      have hcontent := Draft.text?_eq_some_iff.mp htext
      have hunique (other : String) : other.toUTF8 = draft.content ↔ other = text := by
        rw [hcontent]
        exact String.toByteArray_inj
      simp only [hunique, exists_eq_left, reduceCtorEq, false_or,
        ← @insertRows?_eq_none_iff marker text rows]
      cases hrows : insertRows? marker rows text with
      | none => simp [inject_of_none hat, htext, hrows]
      | some result => simp [inject_of_text hat htext hrows]

/-- An injection passes every draft through that is not at its target. At the target it fails
exactly when the bytes are no text or no line holds the marker, with rows or without. Otherwise it
puts one row for each attribute, in the order of the set, behind the first line that holds the
marker, with that line's terminator, and keeps the path and all other bytes. -/
theorem injection_inserts_rows (draft : Draft) (target marker : String) (set : AttributeSet)
    (row : Attribute → String) :
    let stage := injection target marker (set.toList.map row)
    let rows := set.toList.map fun a => (row a).toList
    (draft.isAt target = false → stage.apply draft = .ok draft) ∧
    (draft.isAt target = true →
      (stage.apply draft = .error (.markerNotFound draft.path.toSlash marker) ↔
        ¬ draft.content.IsValidUTF8 ∨
          ∃ text : String, text.toUTF8 = draft.content ∧
            ∀ line ∈ Line.split text.toList, ¬ marker.toList <:+: line) ∧
      ∀ text : String, text.toUTF8 = draft.content →
        (∃ line ∈ Line.split text.toList, marker.toList <:+: line) →
        ∃ next earlier line later block,
          let before := String.ofList (earlier.flatten ++ line)
          let after := String.ofList later.flatten
          stage.apply draft = .ok next ∧
          next.path = draft.path ∧
          Line.split text.toList = earlier ++ line :: later ∧
          Line.Lines (earlier ++ line :: later) ∧
          marker.toList <:+: line ∧
          (∀ other ∈ earlier, ¬ marker.toList <:+: other) ∧
          text = before ++ after ∧
          next.text? = some (before ++ String.ofList block ++ after) ∧
          draft.content = before.toUTF8 ++ after.toUTF8 ∧
          next.content = before.toUTF8 ++ (String.ofList block).toUTF8 ++ after.toUTF8 ∧
          (['\r', '\n'] <:+ line → block = rows.flatMap (· ++ ['\r', '\n'])) ∧
          (['\n'] <:+ line → ¬ ['\r', '\n'] <:+ line → block = rows.flatMap (· ++ ['\n'])) ∧
          (¬ ['\n'] <:+ line → later = [] ∧ block = rows.flatMap (['\n'] ++ ·)) ∧
          (set.toList = [] → next = draft)) := by
  intro stage rows
  refine ⟨fun hat => inject_of_isAt_false hat marker _, fun hat => ⟨inject_eq_error_iff hat, ?_⟩⟩
  intro text hcontent hholds
  obtain ⟨index, hline⟩ := Option.isSome_iff_exists.mp (Line.find?_isSome_iff.mpr hholds)
  obtain ⟨earlier, line, later, hsplit, -, hfound, hearlier⟩ := Line.find?_eq_some_iff.mp hline
  let block := Line.block (Line.ending line) rows
  have hrows : (set.toList.map row).map String.toList = rows := List.map_map
  have hstage : stage.apply draft = .ok (draft.withText
      (String.ofList (earlier.flatten ++ line ++ block ++ later.flatten))) := by
    rw [inject_of_text hat (Draft.text?_eq_some_iff.mpr hcontent.symm)
      (insertRows?_of_split hsplit hfound hearlier _), hrows]
  have htext : text = String.ofList (earlier.flatten ++ line) ++ String.ofList later.flatten := by
    rw [← String.ofList_append, ← Line.eq_flatten_of_split hsplit, String.ofList_toList]
  obtain ⟨hreturn, hnewline, hbare⟩ := Line.block_ending line rows
  refine ⟨_, earlier, line, later, block, hstage, rfl, hsplit, hsplit ▸ Line.lines_split _, hfound,
    hearlier, htext, ?_, ?_, ?_, hreturn, hnewline, ?_, ?_⟩
  · rw [Draft.text?_eq_some_iff, ← String.ofList_append, ← String.ofList_append]
    rfl
  · rw [← hcontent, htext]
    exact String.toByteArray_append
  · rw [Draft.withText, Draft.withContent, String.ofList_append, String.ofList_append]
    exact String.toByteArray_append.trans (congrArg (· ++ _) String.toByteArray_append)
  · exact fun hend => ⟨Line.later_eq_nil hsplit (mt Line.newline_suffix_iff.mpr hend), hbare hend⟩
  · intro hempty
    have hblock : block = [] := by simp [block, rows, hempty, Line.block_nil]
    rw [hblock, List.append_nil, ← Line.eq_flatten_of_split hsplit, String.ofList_toList,
      Draft.withText, hcontent]
    rfl

end Stage

end Scaffold
