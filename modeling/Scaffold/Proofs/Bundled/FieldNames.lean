import Scaffold.Proofs.Attribute.Capitals
import Scaffold.Proofs.Bundled.Declared
/-!
# Names of fields

Whether the attributes of a set have fields of their own. A set keeps attributes apart by their
columns, but two columns that differ only by an underscore in front of a digit have one field.
-/

namespace Scaffold.Bundled

open Words

theorem formRow_injective {a b : Attribute} (h : Recipe.Auth.formRow a = Recipe.Auth.formRow b) :
    a.displayName = b.displayName := by
  unfold Recipe.Auth.formRow at h
  rwa [String.append_left_inj, String.append_right_inj] at h

section

variable {specs : List String} {set : AttributeSet} (h : AttributeSet.ofSpecs specs = .ok set)

include h

theorem nodup_normalized : (set.toList.map (·.normalized)).Nodup := by
  obtain ⟨given, -, hset⟩ := AttributeSet.ofSpecs_eq_ok_iff.mp h
  rw [hset]
  exact AttributeSet.nodup_firsts given

/-- The attributes of a set that was read keep their columns apart. Their fields, in the model and
in the form, are apart exactly if the columns still are without the underscores that stand in front
of digits; two attributes have the same field exactly if these are the same for both. So fields can
only coincide where a word of a name begins with a digit. -/
theorem fields_keep_apart_iff :
    (∀ project : Project, renderTemplate "models/user.go" (textOf model) ⟨project, set⟩ =
      .ok (textOf (modelFor set.toList))) ∧
    fieldNames (modelFor set.toList) =
      ownFields.take 7 ++ set.toList.map (·.displayName) ++ ownFields.drop 7 ∧
    (∀ a ∈ set.toList, ∀ b ∈ set.toList,
      (a.displayName = b.displayName ↔
        closeUp a.normalized.toList = closeUp b.normalized.toList) ∧
      (a.normalized = b.normalized → a = b)) ∧
    ((∀ a ∈ set.toList, ∀ b ∈ set.toList, a ≠ b → a.displayName ≠ b.displayName) ↔
      (set.toList.map fun a => closeUp a.normalized.toList).Nodup) ∧
    ((set.toList.map (·.displayName)).Nodup ↔
      (set.toList.map fun a => closeUp a.normalized.toList).Nodup) ∧
    ((set.toList.map Recipe.Auth.formRow).Nodup ↔
      (set.toList.map fun a => closeUp a.normalized.toList).Nodup) ∧
    ((∀ a ∈ set.toList, closeUp a.normalized.toList = a.normalized.toList) →
      (set.toList.map (·.displayName)).Nodup) := by
  have hread : ∀ a ∈ set.toList, a.Readable := fun a ha => (AttributeSet.readable_of_mem h ha).1
  have hcolumns := nodup_normalized h
  have hset : set.toList.Nodup := List.Nodup.of_map _ hcolumns
  have hsame : ∀ a ∈ set.toList, ∀ b ∈ set.toList, (a.displayName = b.displayName ↔
      closeUp a.normalized.toList = closeUp b.normalized.toList) := fun a ha b hb =>
    Attribute.displayName_eq_iff_closeUp_eq (hread a ha) (hread b hb)
  have hfields : (set.toList.map (·.displayName)).Nodup ↔
      (set.toList.map fun a => closeUp a.normalized.toList).Nodup := by
    rw [List.nodup_map_iff_inj_on hset, List.nodup_map_iff_inj_on hset]
    exact forall₂_congr fun a ha => forall₂_congr fun b hb => imp_congr_left (hsame a ha b hb)
  refine ⟨fun project => renderTemplate_of_render (render_model ⟨project, set⟩),
    fieldNames_modelFor hread, fun a ha b hb => ⟨hsame a ha b hb, ?_⟩, ?_, hfields, ?_, ?_⟩
  · exact fun heq => List.inj_on_of_nodup_map hcolumns ha hb heq
  · rw [← hfields, List.nodup_map_iff_inj_on hset]
    exact forall₂_congr fun a ha => forall₂_congr fun b hb => not_imp_not
  · rw [← hfields, List.nodup_map_iff_inj_on hset, List.nodup_map_iff_inj_on hset]
    refine forall₂_congr fun a ha => forall₂_congr fun b hb => imp_congr_left ?_
    exact ⟨formRow_injective, fun heq => by unfold Recipe.Auth.formRow; rw [heq]⟩
  · intro hclosed
    rw [hfields, List.map_congr_left hclosed]
    exact (List.nodup_map_iff_inj_on hset).mpr fun a ha b hb heq =>
      List.inj_on_of_nodup_map hcolumns ha hb (String.toList_inj.mp heq)

end

/-- Digits are no harm as long as the same letters stand in front of them only once. -/
theorem numbered_fields_keep_apart :
    let set : AttributeSet := ⟨[⟨"line_1", "string", false⟩, ⟨"line2", "string", false⟩, ⟨"line_1a", "text", false⟩]⟩
    AttributeSet.ofSpecs ["line_1", "line2", "Line-1:int", "line_1a:text"] = .ok set ∧
    set.toList.map (·.displayName) = ["Line1", "Line2", "Line1a"] ∧
    ∀ a ∈ set.toList, ∀ b ∈ set.toList, a ≠ b → a.displayName ≠ b.displayName := by
  intro set
  have hset : AttributeSet.ofSpecs ["line_1", "line2", "Line-1:int", "line_1a:text"] =
      .ok set := by
    decide +kernel
  obtain ⟨-, -, -, hapart, -⟩ := fields_keep_apart_iff hset
  exact ⟨hset, by decide +kernel, hapart.mpr (by decide +kernel)⟩

/-- With and without an underscore in front of its digit a name gives one field to two columns. -/
theorem line_1_declared_twice :
    let set : AttributeSet := ⟨[⟨"line1", "string", false⟩, ⟨"line_1", "int", false⟩]⟩
    AttributeSet.ofSpecs ["line1", "line_1:int"] = .ok set ∧
    (fieldNames (modelFor set.toList)).count "Line1" = 2 ∧
    set.toList.map Recipe.Auth.formRow =
      ["      <%= f.InputTag(\"Line1\", \x7b\x7d) %>",
        "      <%= f.InputTag(\"Line1\", \x7b\x7d) %>"] ∧
    ¬ ∀ a ∈ set.toList, ∀ b ∈ set.toList, a ≠ b → a.displayName ≠ b.displayName := by
  intro set
  have hset : AttributeSet.ofSpecs ["line1", "line_1:int"] = .ok set := by decide +kernel
  have hread : ∀ a ∈ set.toList, a.Readable := fun a ha =>
    (AttributeSet.readable_of_mem hset ha).1
  rw [fieldNames_modelFor hread]
  exact ⟨hset, by decide +kernel⟩

end Scaffold.Bundled
