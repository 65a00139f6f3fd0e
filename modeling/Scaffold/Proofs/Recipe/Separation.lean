import Scaffold.Proofs.Stage.Injection
import Scaffold.Proofs.Stage.Placement
/-!
# Paths and contents in a recipe

The first stages fill in the content of a draft and leave its path alone, the others decide where it
goes and never look at its content. So where a file goes depends on nothing that is in it, and what
is in it does not depend on where it goes.
-/

namespace Scaffold

open Text

namespace Recipe

open Stage

variable {recipe : Recipe} {render : Renderer} {context : Context} {stamp : Stamp}
  {draft out : Draft}

/-- The stages that fill in contents. -/
def filling (recipe : Recipe) (render : Renderer) (context : Context) : List Stage :=
  .substitution render context ::
    (recipe.injection.map fun i =>
      .injection i.target i.marker (context.attributes.toList.map i.row)).toList

/-- The stages that decide where files go. -/
def placing (recipe : Recipe) (stamp : Stamp) : List Stage :=
  recipe.renames.map (fun (old, new) => .rename old new) ++
    (recipe.move.map fun m => .relocation m.ending m.directory stamp).toList

theorem stages_eq (recipe : Recipe) (render : Renderer) (context : Context) (stamp : Stamp) :
    recipe.stages render context stamp = recipe.filling render context ++ recipe.placing stamp := by
  rw [Recipe.stages, filling, placing, List.append_assoc]
  rfl

theorem not_places_of_mem_filling {stage : Stage} (h : stage ∈ recipe.filling render context) :
    ¬ stage.Places := by
  simp only [filling, List.mem_cons, Option.mem_toList, Option.map_eq_some_iff] at h
  rcases h with rfl | ⟨i, -, rfl⟩ <;> exact id

theorem places_of_mem_placing {stage : Stage} (h : stage ∈ recipe.placing stamp) :
    stage.Places := by
  simp only [placing, List.mem_append, List.mem_map, Option.mem_toList, Option.map_eq_some_iff] at h
  rcases h with ⟨⟨old, new⟩, -, rfl⟩ | ⟨m, -, rfl⟩ <;> trivial

/-- A draft that gets through the stages is filled in where it is and then placed. -/
theorem exists_filled (h : applyAll (recipe.stages render context stamp) draft = .ok out) :
    ∃ filled, applyAll (recipe.filling render context) draft = .ok filled ∧
      filled.path = draft.path ∧ applyAll (recipe.placing stamp) filled = .ok out := by
  rw [stages_eq, applyAll_append] at h
  cases hfilled : applyAll (recipe.filling render context) draft with
  | error failure =>
      rw [hfilled] at h
      cases h
  | ok filled =>
      rw [hfilled] at h
      exact ⟨filled, rfl, path_of_applyAll (fun _ => not_places_of_mem_filling) hfilled, h⟩

theorem applyAll_filling_of_no_text (htext : draft.text? = none) :
    (∀ i, recipe.injection = some i → draft.isAt i.target = true →
      applyAll (recipe.filling render context) draft =
        .error (.markerNotFound draft.path.toSlash i.marker)) ∧
    ((∀ i, recipe.injection = some i → draft.isAt i.target = false) →
      applyAll (recipe.filling render context) draft = .ok draft) := by
  have hfirst := applyAll_cons_of_ok (substitute_of_no_text render context htext)
  rw [filling, hfirst]
  cases recipe.injection with
  | none => exact ⟨fun _ hi => absurd hi (by simp), fun _ => rfl⟩
  | some i =>
      rw [Option.map_some, Option.toList_some, applyAll_singleton]
      refine ⟨?_, fun hother => inject_of_isAt_false (hother i rfl) i.marker _⟩
      intro j hj hat
      obtain rfl := Option.some.inj hj
      exact inject_of_none hat (by rw [htext, Option.bind_none])

/-- What a recipe makes of a draft falls apart into where it goes and what is in it. Drafts at one
path that get through go to one path, whatever they hold and whatever they are rendered with. The
content of a draft that gets through is what rendering and injection alone make of it. Bytes that
are no text come out as they are, unless the draft is at the target of the injection, where it
fails; elsewhere it fails only if it would go to a path that starts at the root. -/
theorem paths_and_contents_apart (recipe : Recipe) (stamp : Stamp) :
    (∀ (render render' : Renderer) (context context' : Context) (a b c d : Draft),
      a.path.same b.path = true →
      applyAll (recipe.stages render context stamp) a = .ok c →
      applyAll (recipe.stages render' context' stamp) b = .ok d →
      c.path.same d.path = true ∧ (a.path = b.path → c.path = d.path)) ∧
    (∀ (render : Renderer) (context : Context) (draft out : Draft),
      applyAll (recipe.stages render context stamp) draft = .ok out →
      ∃ filled, applyAll (recipe.filling render context) draft = .ok filled ∧
        filled.path = draft.path ∧ out.content = filled.content) ∧
    (∀ (render : Renderer) (context : Context) (draft : Draft), ¬ draft.content.IsValidUTF8 →
      (∀ i, recipe.injection = some i → draft.isAt i.target = true →
        applyAll (recipe.stages render context stamp) draft =
          .error (.markerNotFound draft.path.toSlash i.marker)) ∧
      ((∀ i, recipe.injection = some i → draft.isAt i.target = false) →
        (∃ out, applyAll (recipe.stages render context stamp) draft = .ok out ∧
          out.content = draft.content) ∨
        ∃ text : String, (Path.mk text).isAbsolute = true ∧
          applyAll (recipe.stages render context stamp) draft = .error (.absolutePath text))) := by
  have hplaces (path : RelativePath) : PlacesAt path (applyAll (recipe.placing stamp)) :=
    placesAt_applyAll (fun _ => places_of_mem_placing) path
  refine ⟨?_, ?_, ?_⟩
  · intro render render' context context' a b c d hsame hc hd
    obtain ⟨filled, -, hpath, hc⟩ := exists_filled hc
    obtain ⟨filled', -, hpath', hd⟩ := exists_filled hd
    rw [RelativePath.same, Path.same, decide_eq_true_eq, ← hpath, ← hpath'] at hsame
    obtain ⟨hcomponents, heq⟩ := (hplaces filled'.path).agree hc hd hsame rfl
    rw [← hpath, ← hpath']
    exact ⟨decide_eq_true hcomponents, heq⟩
  · intro render context draft out h
    obtain ⟨filled, hfilled, hpath, hout⟩ := exists_filled h
    exact ⟨filled, hfilled, hpath, (hplaces filled.path).content_eq hout rfl⟩
  · intro render context draft hbytes
    obtain ⟨hat, hother⟩ :=
      @applyAll_filling_of_no_text recipe render context _ (Draft.text?_eq_none_iff.mpr hbytes)
    rw [stages_eq, applyAll_append]
    refine ⟨fun i hi htarget => ?_, fun hnot => ?_⟩
    · rw [hat i hi htarget]
      rfl
    · rw [hother hnot]
      rcases (hplaces draft.path).ok_or_absolute draft rfl with ⟨out, hout⟩ | hfails
      · exact .inl ⟨out, hout, (hplaces draft.path).content_eq hout rfl⟩
      · exact .inr hfails

end Recipe

end Scaffold
