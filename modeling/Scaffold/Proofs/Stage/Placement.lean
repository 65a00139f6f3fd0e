import Scaffold.Proofs.Stage
/-!
# Stages that place drafts

They see of a draft only where it is, so drafts at one path go to one path or fail together, and
their contents are not touched. All other stages leave paths alone.
-/

namespace Scaffold

open Text

namespace Stage

variable {stages : List Stage} {draft out : Draft} {path : RelativePath}
  {pass : Draft → Except Failure Draft}

/-! ## Stages that place -/

def Places : Stage → Prop
  | rename .. | relocation .. => True
  | substitution .. | injection .. => False

/-- A pass that sees of the drafts at a path only where they are: it leaves them all alone, or sends
them all to the path of one text. -/
def PlacesAt (path : RelativePath) (pass : Draft → Except Failure Draft) : Prop :=
  (∀ draft : Draft, draft.path.path.components = path.path.components → pass draft = .ok draft) ∨
    ∃ text : String, ∀ draft : Draft, draft.path.path.components = path.path.components →
      pass draft = draft.withPath text

theorem PlacesAt.content_eq (h : PlacesAt path pass) (hout : pass draft = .ok out)
    (hdraft : draft.path.path.components = path.path.components) :
    out.content = draft.content := by
  rcases h with hkeep | ⟨text, hmove⟩
  · rw [hkeep draft hdraft] at hout
    rw [Except.ok.inj hout]
  · rw [hmove draft hdraft] at hout
    obtain ⟨-, rfl⟩ := Draft.withPath_eq_ok_iff.mp hout
    rfl

theorem PlacesAt.agree (h : PlacesAt path pass) {a b c d : Draft} (hc : pass a = .ok c)
    (hd : pass b = .ok d) (ha : a.path.path.components = path.path.components)
    (hb : b.path.path.components = path.path.components) :
    c.path.path.components = d.path.path.components ∧ (a.path = b.path → c.path = d.path) := by
  rcases h with hkeep | ⟨text, hmove⟩
  · rw [hkeep a ha] at hc
    rw [hkeep b hb] at hd
    obtain rfl := Except.ok.inj hc
    obtain rfl := Except.ok.inj hd
    exact ⟨ha.trans hb.symm, id⟩
  · rw [hmove a ha] at hc
    rw [hmove b hb] at hd
    obtain ⟨-, rfl⟩ := Draft.withPath_eq_ok_iff.mp hc
    obtain ⟨-, rfl⟩ := Draft.withPath_eq_ok_iff.mp hd
    exact ⟨rfl, fun _ => rfl⟩

theorem PlacesAt.ok_or_absolute (h : PlacesAt path pass) (draft : Draft)
    (hdraft : draft.path.path.components = path.path.components) :
    (∃ out, pass draft = .ok out) ∨
      ∃ text : String, (Path.mk text).isAbsolute = true ∧ pass draft = .error (.absolutePath text) := by
  rcases h with hkeep | ⟨text, hmove⟩
  · exact .inl ⟨draft, hkeep draft hdraft⟩
  · rw [hmove draft hdraft]
    cases habsolute : (Path.mk text).isAbsolute with
    | false => exact .inl ⟨_, Draft.withPath_of_not_absolute draft habsolute⟩
    | true => exact .inr ⟨text, habsolute, Draft.withPath_of_absolute draft habsolute⟩

/-- What the first pass makes of a path is all that the second one sees. -/
theorem PlacesAt.followed (h : PlacesAt path pass) {next both : Draft → Except Failure Draft}
    (hnext : ∀ path, PlacesAt path next) (hboth : ∀ draft, both draft = (pass draft).bind next) :
    PlacesAt path both := by
  rcases h with hkeep | ⟨text, hmove⟩
  · have hall (draft : Draft) (hdraft : draft.path.path.components = path.path.components) :
        both draft = next draft := by
      rw [hboth, hkeep draft hdraft]
      rfl
    rcases hnext path with hkeep' | ⟨text, hmove⟩
    · exact .inl fun draft hdraft => (hall draft hdraft).trans (hkeep' draft hdraft)
    · exact .inr ⟨text, fun draft hdraft => (hall draft hdraft).trans (hmove draft hdraft)⟩
  · cases habsolute : (Path.mk text).isAbsolute with
    | true =>
        refine .inr ⟨text, fun draft hdraft => ?_⟩
        rw [hboth, hmove draft hdraft, Draft.withPath_of_absolute draft habsolute]
        rfl
    | false =>
        let moved (draft : Draft) : Draft := ⟨⟨⟨text⟩, habsolute⟩, draft.content⟩
        have hall (draft : Draft) (hdraft : draft.path.path.components = path.path.components) :
            both draft = next (moved draft) := by
          rw [hboth, hmove draft hdraft, Draft.withPath_of_not_absolute draft habsolute]
          rfl
        rcases hnext ⟨⟨text⟩, habsolute⟩ with hkeep' | ⟨last, hmove'⟩
        · refine .inr ⟨text, fun draft hdraft => ?_⟩
          rw [hall draft hdraft, hkeep' (moved draft) rfl,
            Draft.withPath_of_not_absolute draft habsolute]
        · exact .inr ⟨last, fun draft hdraft =>
            (hall draft hdraft).trans (hmove' (moved draft) rfl)⟩

theorem placesAt_rename (old new : String) (path : RelativePath) :
    PlacesAt path (rename old new).apply := by
  by_cases hold : old = ""
  · refine .inl fun draft _ => ?_
    rw [apply, renameEnding, if_pos hold]
  · cases hstem : beforeSuffix? old.toList path.toSlash.toList with
    | none =>
        refine .inl fun draft hdraft => ?_
        rw [← RelativePath.toSlash_congr hdraft] at hstem
        exact rename_of_none hstem new draft.content
    | some stem =>
        refine .inr ⟨String.ofList stem ++ new, fun draft hdraft => ?_⟩
        rw [← RelativePath.toSlash_congr hdraft] at hstem
        exact rename_of_some hold hstem new draft.content

theorem placesAt_relocation (ending directory : String) (stamp : Stamp) (path : RelativePath) :
    PlacesAt path (relocation ending directory stamp).apply := by
  let placed : Draft := ⟨path, .empty⟩
  have hsame (draft : Draft) (hdraft : draft.path.path.components = path.path.components) :
      draft.hasSuffix ending = placed.hasSuffix ending :=
    Draft.hasSuffix_congr (b := placed) hdraft ending
  cases hsuffix : placed.hasSuffix ending with
  | false =>
      refine .inl fun draft hdraft => relocate_of_hasSuffix_false ?_ directory stamp
      rw [hsame draft hdraft, hsuffix]
  | true =>
      refine .inr ⟨stampedPath directory stamp (path.fileName?.getD ""), fun draft hdraft => ?_⟩
      rw [apply, relocate, hsame draft hdraft, hsuffix, if_pos rfl,
        RelativePath.fileName?_congr hdraft]

theorem placesAt_apply {stage : Stage} (h : stage.Places) (path : RelativePath) :
    PlacesAt path stage.apply := by
  cases stage with
  | substitution render context => exact h.elim
  | injection target marker rows => exact h.elim
  | rename old new => exact placesAt_rename old new path
  | relocation ending directory stamp => exact placesAt_relocation ending directory stamp path

theorem placesAt_applyAll (h : ∀ stage ∈ stages, stage.Places) (path : RelativePath) :
    PlacesAt path (applyAll stages) := by
  induction stages generalizing path with
  | nil => exact .inl fun _ _ => rfl
  | cons stage stages ih =>
      exact (placesAt_apply (h stage List.mem_cons_self) path).followed
        (ih fun other hother => h other (List.mem_cons_of_mem _ hother)) (applyAll_cons stage stages)

/-! ## Stages that fill in -/

theorem path_of_not_places {stage : Stage} (h : ¬ stage.Places)
    (hout : stage.apply draft = .ok out) : out.path = draft.path := by
  cases stage with
  | substitution render context => exact path_of_substitution hout
  | injection target marker rows => exact path_of_injection hout
  | rename old new => exact absurd trivial h
  | relocation ending directory stamp => exact absurd trivial h

theorem path_of_applyAll (h : ∀ stage ∈ stages, ¬ stage.Places)
    (hout : applyAll stages draft = .ok out) : out.path = draft.path := by
  induction stages generalizing draft with
  | nil =>
      obtain rfl := Except.ok.inj hout
      rfl
  | cons stage stages ih =>
      obtain ⟨next, hnext, hout⟩ := applyAll_cons_eq_ok_iff.mp hout
      rw [ih (fun other hother => h other (List.mem_cons_of_mem _ hother)) hout,
        path_of_not_places (h stage List.mem_cons_self) hnext]

end Stage

end Scaffold
