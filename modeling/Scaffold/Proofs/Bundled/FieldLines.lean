import Scaffold.Proofs.Attribute.Collection
import Scaffold.Proofs.Attribute.Grammar
import Scaffold.Proofs.Attribute.Words
import Scaffold.Proofs.Bundled.Nullability
import Scaffold.Proofs.Text.Splitting
/-!
# Lines of fields

The lines that attributes add to the generated model. The name of a field and its column hold no
blanks, but its type is whatever a tag of an unknown base name holds, blanks and newlines
included, so a field is one line only if its tag is.
-/

namespace Scaffold

open Text

namespace TypeTag

/-! ## Blanks of a tag -/

def blanks (cs : List Char) : List Char :=
  cs.filter isBlank

theorem blanks_append (as bs : List Char) : blanks (as ++ bs) = blanks as ++ blanks bs :=
  List.filter_append as bs

theorem blanks_eq_nil_iff {cs : List Char} : blanks cs = [] ↔ ∀ c ∈ cs, isBlank c = false := by
  rw [blanks, List.filter_eq_nil_iff]
  simp only [Bool.not_eq_true]

theorem count_newline_blanks (cs : List Char) : (blanks cs).count '\n' = cs.count '\n' :=
  List.count_filter (by decide)

theorem toLower_of_isBlank {c : Char} (h : isBlank c = true) : c.toLower = c := by
  refine dif_neg fun hupper => ?_
  have hletter : Attribute.isNameCharacter c = true :=
    Attribute.isNamePart_iff.mp (.inl (.inl hupper))
  rw [Attribute.isBlank_of_isNameCharacter hletter] at h
  cases h

theorem blanks_eq_nil_of_lowerAscii {cs : List Char} (h : blanks (lowerAscii cs) = []) :
    blanks cs = [] := by
  rw [blanks_eq_nil_iff] at h ⊢
  intro c hc
  by_contra hblank
  rw [Bool.not_eq_false] at hblank
  have hlower := h c.toLower (List.mem_map_of_mem hc)
  rw [toLower_of_isBlank hblank, hblank] at hlower
  cases hlower

theorem blanks_baseName (tag : String) : blanks (baseName tag) = blanks tag.toList := by
  by_cases hstart : wrapperStart <+: lowerAscii tag.toList
  · rw [baseName, split_eq_of_prefix hstart]
    have hlower : lowerAscii (tag.toList.take 6) = wrapperStart := by
      rw [lowerAscii, List.map_take]
      exact (List.prefix_iff_eq_take.mp hstart).symm
    have hmark : blanks (tag.toList.take 6) = [] :=
      blanks_eq_nil_of_lowerAscii (by rw [hlower]; rfl)
    calc
      blanks (tag.toList.drop 6) = blanks (tag.toList.take 6) ++ blanks (tag.toList.drop 6) := by
        rw [hmark, List.nil_append]
      _ = blanks tag.toList := by rw [← blanks_append, List.take_append_drop]
  · rw [baseName, split_eq_of_not_prefix hstart]
    cases hend : beforeSuffix? ['?'] tag.toList with
    | none => rfl
    | some base =>
        rw [beforeSuffix?_eq_some_iff.mp hend, blanks_append]
        exact (List.append_nil _).symm

theorem blanks_knownNames : ∀ name ∈ "uuid" :: wrappedNames, blanks name.toList = [] := by
  decide

theorem Base.blanks_field (base : Base) (nullable : Bool) :
    let field := if nullable then base.nullableField else base.plainField
    blanks field.toList = [] ∧ field ≠ "" := by
  cases base <;> cases nullable <;> decide

section

variable {tag : String}

theorem mem_knownNames_of_base? {base : Base} (h : base? tag = some base) :
    String.ofList (lowerAscii (baseName tag)) ∈ "uuid" :: wrappedNames := by
  by_contra hnot
  rw [List.mem_cons, not_or] at hnot
  have hnone : base? tag = none := Base.ofName?_eq_none_iff.mpr ⟨hnot.2, hnot.1⟩
  rw [hnone] at h
  cases h

/-- The field type of a tag has the blanks of the tag: that of a known base type has none, as its
name has none, and an unknown base name stands for itself. -/
theorem blanks_fieldType (tag : String) : blanks (fieldType tag).toList = blanks tag.toList := by
  rw [← blanks_baseName tag]
  cases hbase : base? tag with
  | none => rw [fieldType_of_unknown hbase, String.toList_ofList]
  | some base =>
      have hname := blanks_knownNames _ (mem_knownNames_of_base? hbase)
      rw [String.toList_ofList] at hname
      rw [blanks_eq_nil_of_lowerAscii hname, fieldType_of_base? hbase]
      exact (base.blanks_field _).1

theorem fieldType_ne_empty (h : baseName tag ≠ []) : fieldType tag ≠ "" := by
  cases hbase : base? tag with
  | none =>
      rw [fieldType_of_unknown hbase]
      exact fun hempty => h (by simpa using hempty)
  | some base =>
      rw [fieldType_of_base? hbase]
      exact (base.blanks_field _).2

end

end TypeTag

namespace Bundled

open TypeTag

/-! ## Lines of a file -/

theorem getLast?_line (line : String) : ∀ c ∈ (line ++ "\n").toList.getLast?, c = '\n' := by
  simp

theorem split_textOf (lines : List String) :
    Line.split (textOf lines).toList =
      lines.flatMap fun line => Line.split (line ++ "\n").toList := by
  induction lines with
  | nil => rfl
  | cons line lines ih =>
      rw [textOf_cons, String.toList_append, Line.split_append (getLast?_line line), ih,
        List.flatMap_cons]

theorem split_textOf_append (lines others : List String) :
    Line.split (textOf (lines ++ others)).toList =
      Line.split (textOf lines).toList ++ Line.split (textOf others).toList := by
  simp only [split_textOf, List.flatMap_append]

theorem length_split_line (line : String) :
    (Line.split (line ++ "\n").toList).length = line.toList.count '\n' + 1 := by
  rw [Line.length_split (getLast?_line line), String.toList_append, List.count_append]
  rfl

theorem split_line_eq_iff {line : String} :
    Line.split (line ++ "\n").toList = [(line ++ "\n").toList] ↔ '\n' ∉ line.toList := by
  constructor
  · intro hone
    have hlength := length_split_line line
    rw [hone, List.length_singleton] at hlength
    exact List.count_eq_zero.mp (Nat.succ.inj hlength).symm
  · intro hline
    rw [String.toList_append]
    exact Line.split_concat_newline hline

/-! ## Lines of a field -/

/-- What each attribute adds stands between the lines of the model itself. -/
theorem split_modelFor (attributes : List Attribute) :
    Line.split (textOf (modelFor attributes)).toList =
      Line.split (textOf (model.take 25)).toList ++
        (attributes.flatMap fun a => Line.split (fieldRow a ++ "\n").toList) ++
        Line.split (textOf (model.drop 28)).toList := by
  rw [modelFor, split_textOf_append, split_textOf_append, split_textOf (attributes.map fieldRow),
    List.flatMap_map]

section

variable {a : Attribute} (h : a.Readable)

include h

theorem isBlank_of_mem_normalized {c : Char} (hc : c ∈ a.normalized.toList) :
    isBlank c = false :=
  Attribute.isBlank_of_isNameCharacter (h.isNameCharacter_of_mem_normalized c hc)

theorem isBlank_of_mem_displayName {c : Char} (hc : c ∈ a.displayName.toList) :
    isBlank c = false := by
  apply Attribute.isBlank_of_isNameCharacter
  rw [Attribute.isNameCharacter, h.isAlphanum_of_mem_displayName c hc, Bool.true_or, Bool.true_or]

theorem count_newline_fieldRow :
    (fieldRow a).toList.count '\n' = a.typeTag.toList.count '\n' := by
  have hname : a.displayName.toList.count '\n' = 0 := List.count_eq_zero.mpr fun hmem =>
    absurd (isBlank_of_mem_displayName h hmem) (by decide)
  have hcolumn : a.normalized.toList.count '\n' = 0 := List.count_eq_zero.mpr fun hmem =>
    absurd (isBlank_of_mem_normalized h hmem) (by decide)
  have htype : a.fieldType.toList.count '\n' = a.typeTag.toList.count '\n' := by
    rw [← count_newline_blanks, ← count_newline_blanks a.typeTag.toList]
    exact congrArg (List.count '\n') (blanks_fieldType a.typeTag)
  unfold fieldRow fieldLine
  simp only [String.toList_append, List.count_append, hname, hcolumn, htype]
  simp

end

/-- Each field is a line, and one more for each newline of its type tag. -/
theorem length_fieldLines {attributes : List Attribute} (h : ∀ a ∈ attributes, a.Readable) :
    (attributes.flatMap fun a => Line.split (fieldRow a ++ "\n").toList).length =
      attributes.length + (attributes.flatMap (·.typeTag.toList)).count '\n' := by
  induction attributes with
  | nil => rfl
  | cons a attributes ih =>
      obtain ⟨ha, hattributes⟩ := List.forall_mem_cons.mp h
      rw [List.flatMap_cons, List.length_append, length_split_line, count_newline_fieldRow ha,
        ih hattributes, List.flatMap_cons, List.count_append, List.length_cons]
      omega

theorem length_split_modelFor {attributes : List Attribute} (h : ∀ a ∈ attributes, a.Readable) :
    (Line.split (textOf (modelFor attributes)).toList).length =
      (Line.split (textOf (modelFor [])).toList).length +
        (attributes.length + (attributes.flatMap (·.typeTag.toList)).count '\n') := by
  rw [split_modelFor attributes, split_modelFor [], List.flatMap_nil, List.append_nil,
    List.length_append, List.length_append, List.length_append, length_fieldLines h,
    Nat.add_right_comm]

/-- The generated model has the lines of that for no attributes, and between them those of a field
for each attribute: a tab, the name, a blank, the type, a blank, and a quoted text with the column
in it. Neither the name nor the column holds a blank. The type holds the blanks of the type tag,
since an unknown base name stands for itself. So a field is one line exactly if its tag has no
newline, and the model gains exactly as many lines as there are attributes if no tag has one. -/
theorem model_gains_lines_of_fields {specs : List String} {set : AttributeSet}
    (h : AttributeSet.ofSpecs specs = .ok set) (project : Project) :
    let text := textOf (modelFor set.toList)
    let plain := textOf (modelFor [])
    let before := Line.split (textOf (model.take 25)).toList
    let after := Line.split (textOf (model.drop 28)).toList
    (renderTemplate "models/user.go" (textOf model) ⟨project, set⟩ = .ok text ∧
      renderTemplate "models/user.go" (textOf model) ⟨project, .empty⟩ = .ok plain) ∧
    (Line.split plain.toList = before ++ after ∧
      Line.split text.toList =
        before ++ (set.toList.flatMap fun a => Line.split (fieldRow a ++ "\n").toList) ++ after) ∧
    (Line.split text.toList).length = (Line.split plain.toList).length +
      (set.size + (set.toList.flatMap (·.typeTag.toList)).count '\n') ∧
    ((Line.split text.toList).length = (Line.split plain.toList).length + set.size ↔
      ∀ a ∈ set.toList, '\n' ∉ a.typeTag.toList) ∧
    ∀ a ∈ set.toList,
      fieldRow a = "\t" ++ a.displayName ++ " " ++ a.fieldType ++ " `json:\"" ++ a.normalized ++
        "\" db:\"" ++ a.normalized ++ "\"`" ∧
      (Line.split (fieldRow a ++ "\n").toList = [(fieldRow a ++ "\n").toList] ↔
        '\n' ∉ a.typeTag.toList) ∧
      ((∀ c ∈ a.displayName.toList, isBlank c = false) ∧
        ∀ c ∈ a.normalized.toList, isBlank c = false) ∧
      a.fieldType.toList.filter isBlank = a.typeTag.toList.filter isBlank ∧
      ((∀ c ∈ a.fieldType.toList, isBlank c = false) ↔
        ∀ c ∈ a.typeTag.toList, isBlank c = false) ∧
      (baseName a.typeTag ≠ [] → a.fieldType ≠ "") := by
  intro text plain before after
  have hread : ∀ a ∈ set.toList, a.Readable := fun a ha => (AttributeSet.readable_of_mem h ha).1
  have hlength : (Line.split text.toList).length = (Line.split plain.toList).length +
      (set.size + (set.toList.flatMap (·.typeTag.toList)).count '\n') :=
    length_split_modelFor hread
  refine ⟨⟨renderTemplate_of_render (render_model ⟨project, set⟩),
    renderTemplate_of_render (render_model ⟨project, .empty⟩)⟩,
    ⟨?_, split_modelFor set.toList⟩, hlength, ?_, fun a ha => ⟨rfl, ?_, ?_, ?_, ?_, ?_⟩⟩
  · have hplain := split_modelFor []
    rwa [List.flatMap_nil, List.append_nil] at hplain
  · rw [hlength, Nat.add_left_cancel_iff, Nat.add_eq_left, List.count_eq_zero, List.mem_flatMap]
    simp only [not_exists, not_and]
  · rw [split_line_eq_iff, ← List.count_eq_zero, count_newline_fieldRow (hread a ha),
      List.count_eq_zero]
  · exact ⟨fun c hc => isBlank_of_mem_displayName (hread a ha) hc,
      fun c hc => isBlank_of_mem_normalized (hread a ha) hc⟩
  · exact blanks_fieldType a.typeTag
  · rw [← blanks_eq_nil_iff, ← blanks_eq_nil_iff, Attribute.fieldType, blanks_fieldType]
  · exact fieldType_ne_empty

/-- A type with a blank inside is still on one line with its field. -/
theorem function_field_is_one_line :
    let handler : Attribute := ⟨"handler", "func(int) error", false⟩
    let set : AttributeSet := ⟨[⟨"bio", "text?", false⟩, handler, ⟨"age", "string", false⟩]⟩
    AttributeSet.ofSpecs ["bio:text?", "handler:func(int) error", "age"] = .ok set ∧
    (Line.split (textOf (modelFor set.toList)).toList).length =
      (Line.split (textOf (modelFor [])).toList).length + 3 ∧
    Line.split (fieldRow handler ++ "\n").toList =
      ["\tHandler func(int) error `json:\"handler\" db:\"handler\"`\n".toList] := by
  intro handler set
  have hset : AttributeSet.ofSpecs ["bio:text?", "handler:func(int) error", "age"] = .ok set := by
    decide
  obtain ⟨-, -, -, hlines, hfields⟩ :=
    model_gains_lines_of_fields hset ⟨"shop", "shop", ⟨"/shop"⟩⟩
  have hhandler : handler ∈ set.toList := by decide
  have hrow : fieldRow handler =
      "\tHandler func(int) error `json:\"handler\" db:\"handler\"`" := by
    decide
  obtain ⟨-, hone, -⟩ := hfields handler hhandler
  refine ⟨hset, hlines.mpr (by decide), ?_⟩
  rw [hone.mpr (by decide), hrow]
  rfl

/-- A newline in a type tag puts the field on two lines, and its type is not free of blanks. -/
theorem newline_in_type_adds_line :
    let note : Attribute := ⟨"note", "a\nb", false⟩
    let set : AttributeSet := ⟨[note]⟩
    AttributeSet.ofSpecs ["note:a\nb"] = .ok set ∧
    (Line.split (textOf (modelFor set.toList)).toList).length =
      (Line.split (textOf (modelFor [])).toList).length + 2 ∧
    note.fieldType = "a\nb" ∧
    ¬ ∀ (specs : List String) (set : AttributeSet) (project : Project) (text plain : String),
      AttributeSet.ofSpecs specs = .ok set →
      renderTemplate "models/user.go" (textOf model) ⟨project, set⟩ = .ok text →
      renderTemplate "models/user.go" (textOf model) ⟨project, .empty⟩ = .ok plain →
      (Line.split text.toList).length = (Line.split plain.toList).length + set.size ∧
      ∀ a ∈ set.toList, ∀ c ∈ a.fieldType.toList, isBlank c = false := by
  intro note set
  have hset : AttributeSet.ofSpecs ["note:a\nb"] = .ok set := by decide
  have hread : ∀ a ∈ set.toList, a.Readable := fun a ha =>
    (AttributeSet.readable_of_mem hset ha).1
  have hfields : set.toList.length + (set.toList.flatMap (·.typeTag.toList)).count '\n' = 2 := by
    decide
  have hlength := length_split_modelFor hread
  rw [hfields] at hlength
  refine ⟨hset, hlength, by decide, fun hsingle => ?_⟩
  let project : Project := ⟨"shop", "shop", ⟨"/shop"⟩⟩
  obtain ⟨hone, -⟩ := hsingle _ set project (textOf (modelFor set.toList)) (textOf (modelFor []))
    hset (renderTemplate_of_render (render_model ⟨project, set⟩))
    (renderTemplate_of_render (render_model ⟨project, .empty⟩))
  rw [hlength, Nat.add_left_cancel_iff] at hone
  cases hone

end Bundled

end Scaffold
