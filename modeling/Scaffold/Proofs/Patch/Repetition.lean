import Scaffold.Proofs.Patch.Insertion
/-!
# Repeated patches

A patch applied again and again. Each time finds the same anchor at the same line, so the rows pile
up behind that line, as if they had been inserted there at once.
-/

namespace Scaffold.Patch

open Text

variable {request : Request} {content : String} {first : Outcome}

/-- The outcomes of applying a request some times, each time to the text that the time before left;
the first failure ends it. -/
def Request.applyTimes (request : Request) : Nat → String → Except Failure (List Outcome)
  | 0, _ => .ok []
  | times + 1, content =>
    match request.apply content with
    | .error failure => .error failure
    | .ok outcome => (request.applyTimes times outcome.content).map (outcome :: ·)

/-- The rows that a request inserts after a line of a text, indented as that line is. -/
def Request.rowsAt (request : Request) (content : String) (index : Nat) : List (List Char) :=
  request.rows ((Line.get? content.toList index).elim [] Line.indentation)

theorem rowsAt_eq {index : Nat} {line : List Char}
    (h : (Line.split content.toList)[index]? = some line) :
    request.rowsAt content index = request.rows (Line.indentation line) := by
  rw [Request.rowsAt, elim_get?_indentation h]

theorem applyTimes_succ_of_ok (h : request.apply content = .ok first) (times : Nat) :
    request.applyTimes (times + 1) content =
      (request.applyTimes times first.content).map (first :: ·) := by
  rw [Request.applyTimes, h]

theorem applyTimes_of_chain {text : Nat → String} {outcome : Nat → Outcome}
    (happly : ∀ n, request.apply (text n) = .ok (outcome n))
    (hcontent : ∀ n, (outcome n).content = text (n + 1)) (times start : Nat) :
    request.applyTimes times (text start) =
      .ok ((List.range times).map fun n => outcome (start + n)) := by
  induction times generalizing start with
  | zero => rfl
  | succ times ih =>
      have hshift (n : Nat) : outcome (start + 1 + n) = outcome (start + (n + 1)) := by
        rw [Nat.add_assoc, Nat.add_comm 1]
      rw [applyTimes_succ_of_ok (happly start), hcontent, ih, List.range_succ_eq_map,
        List.map_cons, List.map_map]
      simp only [hshift]
      rfl

theorem getLast?_line_ne {cs line : List Char} {index : Nat} (h : cs.getLast? ≠ some '\r')
    (hline : (Line.split cs)[index]? = some line) : line.getLast? ≠ some '\r' := by
  intro hreturn
  obtain ⟨earlier, later, hsplit, -⟩ := Line.exists_split_of_getElem? hline
  have hlater : later = [] := Line.later_eq_nil hsplit (by rw [hreturn]; decide)
  apply h
  rw [Line.eq_flatten_of_split hsplit, hlater, List.flatten_nil, List.append_nil,
    List.getLast?_append, hreturn]
  rfl

/-- A patch that succeeded succeeds again on what it made, however often, with the same anchor, line
and warning, and the n-th text is the first one with n copies of the rows behind that line. It is
enough that no row holds an anchor that comes before the one found, and that the text does not end
in a carriage return, which the newline put behind it would complete to another terminator. -/
theorem patches_accumulate (h : request.apply content = .ok first)
    (hreturn : content.toList.getLast? ≠ some '\r')
    (hearlier : ∀ other ∈ request.anchors.take first.anchorIndex,
      '\n' ∉ other.marker.toList ∧ '\r' ∉ other.marker.toList ∧
      ∀ row ∈ request.rowsAt content first.line, ¬ other.marker.toList <:+: row)
    (times : Nat) :
    request.applyTimes times content =
      .ok ((List.range times).map fun n =>
        { first with
          content := String.ofList (Line.insertAfter content.toList first.line
            (List.replicate (n + 1) (request.rowsAt content first.line)).flatten) }) := by
  obtain ⟨earlier, line, later, hsplit, hlength, -⟩ := exists_split_of_apply_eq_ok h
  have hline : (Line.split content.toList)[first.line]? = some line := by simp [hsplit, ← hlength]
  rw [rowsAt_eq hline] at hearlier ⊢
  have hagain := applyTimes_of_chain
    (apply_repeated h hline (getLast?_line_ne hreturn hline) hearlier) (fun _ => rfl) times 0
  simp only [repeated_zero, Nat.zero_add] at hagain
  exact hagain

/-- Two patches at a fallback anchor, in a last line without a newline. -/
theorem patches_accumulate_at_last_line :
    let old : Anchor := ⟨"if app", some "old"⟩
    let request : Request := ⟨"app.go", ⟨"once.Do(", none⟩, [old], ["use(a)", ""], "\t"⟩
    let first : Outcome :=
      ⟨"f\n  if app\n  \tuse(a)\n", 1, old, 1, some ⟨"app.go", "if app", some "old"⟩⟩
    request.apply "f\n  if app" = .ok first ∧
    "f\n  if app".toList.getLast? ≠ some '\r' ∧
    (∀ other ∈ request.anchors.take 1, '\n' ∉ other.marker.toList ∧ '\r' ∉ other.marker.toList ∧
      ∀ row ∈ request.rowsAt "f\n  if app" 1, ¬ other.marker.toList <:+: row) ∧
    request.applyTimes 2 "f\n  if app" =
      .ok [first, { first with content := "f\n  if app\n  \tuse(a)\n\n  \tuse(a)\n" }] := by
  intro old request first
  have hfirst : request.apply "f\n  if app" = .ok first := by cbv
  have hreturn : "f\n  if app".toList.getLast? ≠ some '\r' := by decide
  have hearlier : ∀ other ∈ request.anchors.take 1,
      '\n' ∉ other.marker.toList ∧ '\r' ∉ other.marker.toList ∧
      ∀ row ∈ request.rowsAt "f\n  if app" 1, ¬ other.marker.toList <:+: row := by
    have hrows : request.rowsAt "f\n  if app" 1 = ["  \tuse(a)".toList, []] := by cbv
    intro other hother
    obtain rfl : other = ⟨"once.Do(", none⟩ := List.mem_singleton.mp hother
    rw [hrows]
    simp only [← occursIn_iff]
    decide
  refine ⟨hfirst, hreturn, hearlier, ?_⟩
  rw [patches_accumulate hfirst hreturn hearlier]
  cbv

end Scaffold.Patch
