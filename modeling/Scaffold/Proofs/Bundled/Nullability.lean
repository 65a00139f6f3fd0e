import Scaffold.Proofs.Bundled.Outputs
/-!
# Attributes that may be absent

Their column allows it whatever their type is, but their field has a wrapper only if the type is one
of a few; for any other type the wrapper is lost.
-/

namespace Scaffold

open Text

namespace TypeTag

def wrapperStart : List Char := ['n', 'u', 'l', 'l', 's', '.']

/-- The base names in lowercase whose types have a wrapper. -/
def wrappedNames : List String :=
  ["string", "text", "int", "integer", "int64", "float", "float64", "decimal", "bool", "boolean",
    "time", "timestamp", "datetime", "date"]

def baseName (tag : String) : List Char :=
  (split tag.toList).1

section

variable {tag : String}

theorem split_eq_of_prefix (h : wrapperStart <+: lowerAscii tag.toList) :
    split tag.toList = (tag.toList.drop 6, true) :=
  if_pos (List.isPrefixOf_iff_prefix.mpr h)

theorem split_eq_of_not_prefix (h : ¬ wrapperStart <+: lowerAscii tag.toList) :
    split tag.toList =
      match beforeSuffix? ['?'] tag.toList with
      | some base => (base, true)
      | none => (tag.toList, false) :=
  if_neg fun hstart => h (List.isPrefixOf_iff_prefix.mp hstart)

theorem isNullable_iff :
    isNullable tag = true ↔ wrapperStart <+: lowerAscii tag.toList ∨ ['?'] <:+ tag.toList := by
  by_cases hstart : wrapperStart <+: lowerAscii tag.toList
  · rw [isNullable, split_eq_of_prefix hstart]
    exact iff_of_true rfl (.inl hstart)
  · rw [isNullable, split_eq_of_not_prefix hstart, or_iff_right hstart]
    cases hend : beforeSuffix? ['?'] tag.toList with
    | some base => exact iff_of_true rfl ⟨base, (beforeSuffix?_eq_some_iff.mp hend).symm⟩
    | none =>
        refine iff_of_false Bool.false_ne_true ?_
        rintro ⟨base, hbase⟩
        rw [beforeSuffix?_eq_some_iff.mpr hbase.symm] at hend
        cases hend

theorem baseName_eq_toList (h : isNullable tag = false) : baseName tag = tag.toList := by
  have hneither := mt isNullable_iff.mpr (Bool.not_eq_true _ ▸ h)
  rw [not_or] at hneither
  have hend : beforeSuffix? ['?'] tag.toList = none := by
    rw [Option.eq_none_iff_forall_ne_some]
    intro base hbase
    exact hneither.2 ⟨base, (beforeSuffix?_eq_some_iff.mp hbase).symm⟩
  rw [baseName, split_eq_of_not_prefix hneither.1, hend]

theorem wrapperStart_prefix_lowerAscii {cs : List Char} (h : wrapperStart <+: cs) :
    wrapperStart <+: lowerAscii cs :=
  h.map Char.toLower

theorem isNullable_of_prefix_baseName (h : wrapperStart <+: baseName tag) :
    isNullable tag = true := by
  by_contra hplain
  rw [baseName_eq_toList (Bool.eq_false_iff.mpr hplain)] at h
  exact hplain (isNullable_iff.mpr (.inl (wrapperStart_prefix_lowerAscii h)))

end

/-! ## Base types -/

theorem Base.ofName?_eq_none_iff {name : String} :
    Base.ofName? name = none ↔ name ∉ wrappedNames ∧ name ≠ "uuid" := by
  unfold Base.ofName? wrappedNames
  split <;> simp_all

theorem Base.ofName?_eq_uuid_iff {name : String} :
    Base.ofName? name = some .uuid ↔ name = "uuid" := by
  unfold Base.ofName?
  split <;> simp_all

theorem Base.not_prefix_plainField (base : Base) : ¬ wrapperStart <+: base.plainField.toList := by
  cases base <;> decide

theorem Base.prefix_nullableField_iff (base : Base) :
    wrapperStart <+: base.nullableField.toList ↔ base ≠ .uuid := by
  cases base <;> decide

theorem base?_cases (tag : String) :
    let name := String.ofList (lowerAscii (baseName tag))
    base? tag = none ∧ name ∉ wrappedNames ∧ name ≠ "uuid" ∨
      base? tag = some .uuid ∧ name ∉ wrappedNames ∧ name = "uuid" ∨
      ∃ base, base? tag = some base ∧ base ≠ .uuid ∧ name ∈ wrappedNames := by
  intro name
  have hbase : base? tag = Base.ofName? name := rfl
  rw [hbase]
  cases hname : Base.ofName? name with
  | none => exact .inl ⟨rfl, Base.ofName?_eq_none_iff.mp hname⟩
  | some base =>
      by_cases huuid : base = .uuid
      · subst huuid
        have heq := Base.ofName?_eq_uuid_iff.mp hname
        exact .inr (.inl ⟨rfl, by rw [heq]; decide, heq⟩)
      · refine .inr (.inr ⟨base, rfl, huuid, ?_⟩)
        by_contra hnot
        have hne : name ≠ "uuid" := fun heq =>
          huuid (Option.some.inj (hname.symm.trans (Base.ofName?_eq_uuid_iff.mpr heq)))
        rw [Base.ofName?_eq_none_iff.mpr ⟨hnot, hne⟩] at hname
        cases hname

section

variable {tag : String}

theorem fieldType_of_base? {base : Base} (h : base? tag = some base) :
    fieldType tag = if isNullable tag then base.nullableField else base.plainField := by
  rw [fieldType, h]

theorem fieldType_of_unknown (h : base? tag = none) :
    fieldType tag = String.ofList (baseName tag) := by
  rw [fieldType, h]
  rfl

theorem base?_eq_none_of_prefix_baseName (h : wrapperStart <+: baseName tag) :
    base? tag = none := by
  have hlower := wrapperStart_prefix_lowerAscii h
  have hapart : ∀ name ∈ "uuid" :: wrappedNames, ¬ wrapperStart <+: name.toList := by decide
  have hname : String.ofList (lowerAscii (baseName tag)) ∉ "uuid" :: wrappedNames := fun hmem =>
    hapart _ hmem (by rwa [String.toList_ofList])
  rw [List.mem_cons, not_or] at hname
  exact Base.ofName?_eq_none_iff.mpr ⟨hname.2, hname.1⟩

/-- The field of a tag has a wrapper if the tag is nullable and its base type has one, or if the
base name is itself that of a wrapper. -/
theorem prefix_fieldType_iff :
    wrapperStart <+: (fieldType tag).toList ↔
      isNullable tag = true ∧ (wrapperStart <+: baseName tag ∨
        String.ofList (lowerAscii (baseName tag)) ∈ wrappedNames) := by
  have hknown {base : Base} (h : base? tag = some base) : ¬ wrapperStart <+: baseName tag :=
    fun hstart => Option.some_ne_none base (h.symm.trans (base?_eq_none_of_prefix_baseName hstart))
  obtain ⟨hbase, hname, -⟩ | ⟨hbase, hname, -⟩ | ⟨base, hbase, huuid, hname⟩ := base?_cases tag
  · rw [fieldType_of_unknown hbase, or_iff_left hname, String.toList_ofList]
    exact ⟨fun h => ⟨isNullable_of_prefix_baseName h, h⟩, And.right⟩
  · rw [fieldType_of_base? hbase]
    refine iff_of_false ?_ fun h => h.2.elim (hknown hbase) hname
    cases isNullable tag <;> decide
  · rw [fieldType_of_base? hbase]
    cases isNullable tag with
    | false => exact iff_of_false base.not_prefix_plainField fun h => Bool.false_ne_true h.1
    | true => exact iff_of_true (base.prefix_nullableField_iff.mpr huuid) ⟨rfl, .inr hname⟩

theorem fieldType_of_not_prefix (hnullable : isNullable tag = true)
    (h : ¬ wrapperStart <+: (fieldType tag).toList) :
    fieldType tag =
      if String.ofList (lowerAscii (baseName tag)) = "uuid" then "uuid.UUID"
      else String.ofList (baseName tag) := by
  obtain ⟨hbase, -, huuid⟩ | ⟨hbase, -, huuid⟩ | ⟨base, -, -, hname⟩ := base?_cases tag
  · rw [fieldType_of_unknown hbase, if_neg huuid]
  · rw [fieldType_of_base? hbase, if_pos huuid, hnullable]
    rfl
  · exact absurd (prefix_fieldType_iff.mpr ⟨hnullable, .inr hname⟩) h

end

end TypeTag

namespace Bundled

open TypeTag

theorem columnLine_injective (name type : String) : Function.Injective (columnLine name type) := by
  intro option other h
  unfold columnLine at h
  rw [String.append_left_inj, String.append_right_inj] at h
  exact h

/-- The column of an attribute may be null exactly if its tag is nullable. -/
theorem columnRow_eq_iff (a : Attribute) :
    columnRow a = columnLine a.normalized a.columnType "\"null\": true" ↔ a.isNullable = true := by
  rw [columnRow, (columnLine_injective _ _).eq_iff, columnOption]
  change (if a.isNullable = true then _ else _) = _ ↔ _
  cases a.isNullable <;> decide

/-- The generated model has a field for each attribute, and the generated migration a column. The
column may be null if the tag of the attribute begins with `nulls.`, in any case, or ends with a
question mark. The type of the field is a wrapper only if moreover the base name of the tag is one
of fourteen, or is itself that of a wrapper, and so the field and the column need not agree: a
nullable tag of another base name gives the field the base name as its type, or the plain type of
keys. -/
theorem nullable_fields_are_wrapped_iff (context : Context) :
    renderTemplate "models/user.go" (textOf model) context =
      .ok (textOf (modelFor context.attributes.toList)) ∧
    renderTemplate "migrations/create_users.fizz" (textOf migration) context =
      .ok (textOf (migrationFor context.attributes.toList)) ∧
    ∀ a : Attribute,
      let wrapped := "nulls.".toList <+: a.fieldType.toList
      let hasWrapper := "nulls.".toList <+: baseName a.typeTag ∨
        String.ofList (lowerAscii (baseName a.typeTag)) ∈ ["string", "text", "int", "integer",
          "int64", "float", "float64", "decimal", "bool", "boolean", "time", "timestamp",
          "datetime", "date"]
      (a.isNullable = true ↔
        "nulls.".toList <+: lowerAscii a.typeTag.toList ∨ ['?'] <:+ a.typeTag.toList) ∧
      fieldRow a = fieldLine a.displayName a.fieldType a.normalized ∧
      (columnRow a = columnLine a.normalized a.columnType "\"null\": true" ↔
        a.isNullable = true) ∧
      (wrapped ↔ a.isNullable = true ∧ hasWrapper) ∧
      ((wrapped ↔ a.isNullable = true) ↔ (a.isNullable = true → hasWrapper)) ∧
      (a.isNullable = true → ¬ wrapped →
        a.fieldType = if String.ofList (lowerAscii (baseName a.typeTag)) = "uuid" then "uuid.UUID"
          else String.ofList (baseName a.typeTag)) := by
  refine ⟨renderTemplate_of_render (render_model context),
    renderTemplate_of_render (render_migration context), fun a => ?_⟩
  intro wrapped hasWrapper
  have hwrapped : wrapped ↔ a.isNullable = true ∧ hasWrapper := prefix_fieldType_iff
  refine ⟨isNullable_iff, rfl, columnRow_eq_iff a, hwrapped, ?_, fieldType_of_not_prefix⟩
  rw [hwrapped]
  exact and_iff_left_iff_imp

/-- A key that may be absent loses its wrapper, also where the tag names the wrapper itself; so does
a type that has no name of its own. -/
theorem nullable_key_is_not_wrapped :
    let token : Attribute := ⟨"token", "uuid?", false⟩
    let parent : Attribute := ⟨"parent", "nulls.UUID", false⟩
    let count : Attribute := ⟨"count", "nulls.Int32", false⟩
    (Attribute.parse "token:uuid?" = .ok token ∧ Attribute.parse "parent:nulls.UUID" = .ok parent ∧
      Attribute.parse "count:nulls.Int32" = .ok count) ∧
    (token.fieldType = "uuid.UUID" ∧ parent.fieldType = "uuid.UUID" ∧ count.fieldType = "Int32") ∧
    columnRow token = "\tt.Column(\"token\", \"uuid\", \x7b\"null\": true\x7d)" ∧
    ¬ ∀ (spec : String) (a : Attribute), Attribute.parse spec = .ok a →
      ("nulls.".toList <+: a.fieldType.toList ↔ a.isNullable = true) := by
  intro token parent count
  have hread : Attribute.parse "token:uuid?" = .ok token := by decide +kernel
  refine ⟨⟨hread, by decide +kernel, by decide +kernel⟩, by decide +kernel, by decide +kernel, ?_⟩
  intro hagree
  have hapart : ¬ ("nulls.".toList <+: token.fieldType.toList ↔ token.isNullable = true) := by
    decide +kernel
  exact hapart (hagree _ _ hread)

end Bundled

end Scaffold
