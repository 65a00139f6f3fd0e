import Scaffold.Patch
import Scaffold.Proofs.Text.Lines
/-!
# The anchor of a patch

Which anchor a patch is applied at: the first one, in order of priority, that some line holds.
-/

namespace Scaffold.Patch

open Text

theorem locate?_eq_some {content : List Char} {start index line : Nat} {anchors : List Anchor}
    {anchor : Anchor} (h : locate? content start anchors = some (index, anchor, line)) :
    ∃ i, index = start + i ∧ anchors[i]? = some anchor ∧
      Line.find? anchor.marker.toList content = some line ∧
      ∀ other ∈ anchors.take i, Line.find? other.marker.toList content = none := by
  induction anchors generalizing start with
  | nil => cases h
  | cons first anchors ih =>
      rw [locate?] at h
      cases hfirst : Line.find? first.marker.toList content with
      | some found =>
          rw [hfirst] at h
          cases h
          exact ⟨0, rfl, rfl, hfirst, by simp⟩
      | none =>
          rw [hfirst] at h
          obtain ⟨i, hindex, hanchor, hline, hearlier⟩ := ih h
          refine ⟨i + 1, by omega, hanchor, hline, ?_⟩
          intro other hother
          rw [List.take_succ_cons, List.mem_cons] at hother
          rcases hother with rfl | hother
          · exact hfirst
          · exact hearlier other hother

theorem locate?_eq_none_iff {content : List Char} {start : Nat} {anchors : List Anchor} :
    locate? content start anchors = none ↔
      ∀ anchor ∈ anchors, Line.find? anchor.marker.toList content = none := by
  induction anchors generalizing start with
  | nil => simp [locate?]
  | cons first anchors ih =>
      rw [locate?]
      cases hfirst : Line.find? first.marker.toList content with
      | some found => simp [hfirst]
      | none => simp [hfirst, ih]

variable {request : Request} {content : String} {outcome : Outcome}

theorem apply_of_locate?_eq_none (h : locate? content.toList 0 request.anchors = none) :
    request.apply content =
      .error (.anchorNotFound request.target (request.anchors.map (·.marker))) := by
  simp only [Request.apply, h]

theorem apply_of_locate?_eq_some {index line : Nat} {anchor : Anchor}
    (h : locate? content.toList 0 request.anchors = some (index, anchor, line)) :
    request.apply content = .ok {
      content := String.ofList (Line.insertAfter content.toList line
        (request.rows ((Line.get? content.toList line).elim [] Line.indentation)))
      anchorIndex := index
      anchor := anchor
      line := line
      warning :=
        if index = 0 then none else some ⟨request.target, anchor.marker, anchor.note⟩ } := by
  simp only [Request.apply, h]

theorem exists_locate?_of_apply_eq_ok (h : request.apply content = .ok outcome) :
    locate? content.toList 0 request.anchors =
      some (outcome.anchorIndex, outcome.anchor, outcome.line) ∧
    outcome.content = String.ofList (Line.insertAfter content.toList outcome.line
      (request.rows ((Line.get? content.toList outcome.line).elim [] Line.indentation))) ∧
    outcome.warning =
      if outcome.anchorIndex = 0 then none
      else some ⟨request.target, outcome.anchor.marker, outcome.anchor.note⟩ := by
  cases hlocate : locate? content.toList 0 request.anchors with
  | none =>
      rw [apply_of_locate?_eq_none hlocate] at h
      cases h
  | some located =>
      rw [apply_of_locate?_eq_some hlocate] at h
      cases h
      exact ⟨rfl, rfl, rfl⟩

theorem anchor_of_apply_eq_ok (h : request.apply content = .ok outcome) :
    request.anchors[outcome.anchorIndex]? = some outcome.anchor ∧
      Line.find? outcome.anchor.marker.toList content.toList = some outcome.line ∧
      ∀ other ∈ request.anchors.take outcome.anchorIndex,
        Line.find? other.marker.toList content.toList = none := by
  obtain ⟨i, hindex, hanchor, hline, hearlier⟩ :=
    locate?_eq_some (exists_locate?_of_apply_eq_ok h).1
  rw [Nat.zero_add] at hindex
  rw [hindex]
  exact ⟨hanchor, hline, hearlier⟩

theorem exists_apply_eq_ok_iff :
    (∃ outcome, request.apply content = .ok outcome) ↔
      ∃ anchor ∈ request.anchors, ∃ line ∈ Line.split content.toList,
        anchor.marker.toList <:+: line := by
  constructor
  · rintro ⟨outcome, h⟩
    obtain ⟨hanchor, hline, -⟩ := anchor_of_apply_eq_ok h
    refine ⟨outcome.anchor, List.mem_of_getElem? hanchor, ?_⟩
    rw [← Line.find?_isSome_iff, hline]
    rfl
  · rintro ⟨anchor, hanchor, hline⟩
    rw [← Line.find?_isSome_iff] at hline
    cases hlocate : locate? content.toList 0 request.anchors with
    | none =>
        rw [locate?_eq_none_iff.mp hlocate anchor hanchor] at hline
        cases hline
    | some located => exact ⟨_, apply_of_locate?_eq_some hlocate⟩

end Scaffold.Patch
