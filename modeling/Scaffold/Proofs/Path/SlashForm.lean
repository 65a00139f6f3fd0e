import Mathlib.Data.List.Forall2
import Scaffold.Proofs.Path.Order
import Scaffold.Proofs.Stage.Placement
import Scaffold.Run
/-!
# Slash forms as canonical forms

The slash form of a relative path that is a text is canonical. It is one text for all spellings of
the path and reads back as the path, so what works on slash forms tells paths apart exactly as their
components do: the paths of a report, the endings of paths, and the renaming of an ending.
-/

namespace Scaffold

open Text

theorem Path.toSlash_toSlash {p : Path} (h : p.isAbsolute = false) :
    (Path.mk p.toSlash).toSlash = p.toSlash :=
  toSlash_of_components (by rw [components_toSlash h, ← components_toSlash h,
    (isText_ofString _).map_lossy])

namespace RelativePath

variable {p q : RelativePath}

theorem same_iff : p.same q = true ↔ p.path.components = q.path.components :=
  Path.same_iff

theorem toSlash_eq_iff (hp : p.path.IsText) (hq : q.path.IsText) :
    p.toSlash = q.toSlash ↔ p.path.components = q.path.components := by
  rw [toSlash, toSlash, Path.toSlash_eq_iff_lossy p.not_absolute q.not_absolute, hp.map_lossy,
    hq.map_lossy]

theorem ofText_toSlash (p : RelativePath) :
    ofText p.toSlash = .ok ⟨⟨p.toSlash⟩, Path.isAbsolute_toSlash p.not_absolute⟩ :=
  dif_pos _

end RelativePath

/-- Paths that have the same endings have the same slash form, which ends with itself. -/
theorem Draft.hasSuffix_eq_iff {a b : Draft} :
    (∀ ending, a.hasSuffix ending = b.hasSuffix ending) ↔ a.path.toSlash = b.path.toSlash := by
  constructor
  · intro h
    have hself (draft : Draft) : draft.hasSuffix draft.path.toSlash = true :=
      List.isSuffixOf_iff_suffix.mpr List.suffix_rfl
    have hab : a.path.toSlash.toList <:+ b.path.toSlash.toList :=
      List.isSuffixOf_iff_suffix.mp ((h _).symm.trans (hself a))
    have hba : b.path.toSlash.toList <:+ a.path.toSlash.toList :=
      List.isSuffixOf_iff_suffix.mp ((h _).trans (hself b))
    exact String.toList_inj.mp (hab.eq_of_length (hab.length_le.antisymm hba.length_le))
  · intro h ending
    rw [hasSuffix, hasSuffix, h]

theorem Stage.PlacesAt.alike {path : RelativePath} {pass : Draft → Except Failure Draft}
    (h : PlacesAt path pass) {a b : Draft} (hcontent : a.content = b.content)
    (ha : a.path.path.components = path.path.components)
    (hb : b.path.path.components = path.path.components) :
    (pass a = .ok a ∧ pass b = .ok b) ∨ pass a = pass b := by
  rcases h with hkeep | ⟨text, hmove⟩
  · exact .inl ⟨hkeep a ha, hkeep b hb⟩
  · refine .inr ?_
    rw [hmove a ha, hmove b hb, Draft.withPath, Draft.withPath, hcontent]

theorem Run.written_eq_iff {recipe : Recipe} {request : Request} {stamp : Stamp}
    {patch : Patch.Outcome} {as bs : List Draft} (has : ∀ draft ∈ as, draft.path.path.IsText)
    (hbs : ∀ draft ∈ bs, draft.path.path.IsText) :
    (report recipe request stamp as patch).written =
        (report recipe request stamp bs patch).written ↔
      List.Forall₂ (fun a b => a.path.same b.path = true) as bs := by
  change as.map (·.path.toSlash) = bs.map (·.path.toSlash) ↔ _
  rw [← List.forall₂_eq_eq_eq, List.forall₂_map_left_iff, List.forall₂_map_right_iff]
  induction as generalizing bs with
  | nil => cases bs <;> simp
  | cons a as ih =>
      cases bs with
      | nil => simp
      | cons b bs =>
          obtain ⟨ha, has⟩ := List.forall_mem_cons.mp has
          obtain ⟨hb, hbs⟩ := List.forall_mem_cons.mp hbs
          rw [List.forall₂_cons, List.forall₂_cons, ih has hbs, RelativePath.toSlash_eq_iff ha hb,
            RelativePath.same_iff]

/-- Two relative paths that are texts are the same exactly when their slash forms are the same text,
and exactly when they have the same endings. The slash form is the text of a relative path, that path
is the same as the one it comes from, and it is its own slash form. So reports name the same files
exactly when the paths are the same, and renaming an ending either leaves both spellings of a path
alone or does to both what it does to one. -/
theorem RelativePath.slash_form_is_canonical (p q : RelativePath) (hp : p.path.IsText)
    (hq : q.path.IsText) :
    (p.same q = true ↔ p.toSlash = q.toSlash) ∧
    (∃ r, ofText p.toSlash = .ok r ∧ r.same p = true ∧ r.toSlash = p.toSlash) ∧
    (∀ content, p.same q = true ↔
      ∀ ending, (⟨p, content⟩ : Draft).hasSuffix ending = (⟨q, content⟩ : Draft).hasSuffix ending) ∧
    (∀ recipe request stamp patch, ∀ as bs : List Draft,
      (∀ draft ∈ as, draft.path.path.IsText) → (∀ draft ∈ bs, draft.path.path.IsText) →
        ((Run.report recipe request stamp as patch).written =
            (Run.report recipe request stamp bs patch).written ↔
          List.Forall₂ (fun a b => a.path.same b.path = true) as bs)) ∧
    (p.same q = true → ∀ old new content,
      let stage := Stage.rename old new
      (stage.apply ⟨p, content⟩ = .ok ⟨p, content⟩ ∧
        stage.apply ⟨q, content⟩ = .ok ⟨q, content⟩) ∨
      stage.apply ⟨p, content⟩ = stage.apply ⟨q, content⟩) := by
  have hiff : p.same q = true ↔ p.toSlash = q.toSlash := same_iff.trans (toSlash_eq_iff hp hq).symm
  let r : RelativePath := ⟨⟨p.toSlash⟩, Path.isAbsolute_toSlash p.not_absolute⟩
  have hcomponents : r.same p = true :=
    same_iff.mpr ((Path.components_toSlash p.not_absolute).trans hp.map_lossy)
  have hslash : r.toSlash = p.toSlash := Path.toSlash_toSlash p.not_absolute
  refine ⟨hiff, ⟨r, ofText_toSlash p, hcomponents, hslash⟩, fun content => ?_,
    fun _ _ _ _ _ _ => Run.written_eq_iff, ?_⟩
  · have hendings := @Draft.hasSuffix_eq_iff ⟨p, content⟩ ⟨q, content⟩
    exact hiff.trans hendings.symm
  · intro hsame old new content
    exact (Stage.placesAt_rename old new p).alike rfl rfl (same_iff.mp hsame).symm

/-- Two spellings of a path below `./`. -/
theorem RelativePath.slash_form_of_spellings :
    let p : RelativePath := ⟨⟨"./users//./form/"⟩, rfl⟩
    let q : RelativePath := ⟨⟨"./users/form"⟩, rfl⟩
    p.toSlash = q.toSlash ∧ p.toSlash = "./users/form" ∧ p.toSlash ≠ "users/form" := by
  intro p q
  have hsame := (slash_form_is_canonical p q (Path.isText_ofString _) (Path.isText_ofString _)).1
  exact ⟨hsame.mp (by decide), by decide, by decide⟩

end Scaffold
