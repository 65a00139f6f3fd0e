import Scaffold.Proofs.Attribute.Collection
import Scaffold.Proofs.Attribute.Words
import Scaffold.Proofs.Bundled.Outputs
/-!
# Declared fields and columns

What the generated model and migration declare: some fields and columns of their own, and one for
each attribute between them. Names that are reserved are kept from being declared again, but not
all names of the generated code are reserved.
-/

namespace Scaffold.Bundled

open Text Words

/-! ## Reading declarations -/

/-- The lines of the model between the one that opens the struct and the one that closes it. -/
def structLines (lines : List String) : List String :=
  ((lines.dropWhile (· ≠ "type User struct \x7b")).drop 1).takeWhile (· ≠ "\x7d")

/-- The name that a line of a struct declares: what stands between a tab and a blank. -/
def declaredField? (line : String) : Option String :=
  (afterPrefix? ['\t'] line.toList).map fun cs => String.ofList (cs.takeWhile (· ≠ ' '))

def fieldNames (lines : List String) : List String :=
  (structLines lines).filterMap declaredField?

/-- The columns that a line of the migration adds. One line adds the two columns of timestamps. -/
def declaredColumns (line : String) : List String :=
  if line = "\tt.Timestamps()" then ["created_at", "updated_at"]
  else
    match afterPrefix? "\tt.Column(\"".toList line.toList with
    | some cs => [String.ofList (cs.takeWhile (· ≠ '"'))]
    | none => []

def columnNames (lines : List String) : List String :=
  lines.flatMap declaredColumns

def ownFields : List String :=
  ["ID", "CreatedAt", "UpdatedAt", "Email", "PasswordHash", "RecoveryCode", "RecoveryExpiration",
    "Password", "PasswordConfirmation"]

def ownColumns : List String :=
  ["id", "email", "password_hash", "recovery_code", "recovery_expiration", "created_at",
    "updated_at"]

/-! ## Declarations of attributes -/

section Rows

variable {a : Attribute} (h : a.Readable)

theorem fieldRow_eq (a : Attribute) : ∃ rest, (fieldRow a).toList =
    ['\t'] ++ (a.displayName.toList ++ ' ' :: rest) := by
  have htab : "\t".toList = ['\t'] := rfl
  have hblank : " ".toList = [' '] := rfl
  unfold fieldRow fieldLine
  simp only [String.toList_append, htab, hblank, List.append_assoc, List.singleton_append]
  exact ⟨_, rfl⟩

theorem columnRow_eq (a : Attribute) : ∃ rest, (columnRow a).toList =
    "\tt.Column(\"".toList ++ (a.normalized.toList ++ '"' :: rest) := by
  have hrow : columnRow a = "\tt.Column(\"" ++ (a.normalized ++ ("\", \"" ++ (a.columnType ++
      ("\", \x7b" ++ (TypeTag.columnOption a.typeTag ++ "\x7d)"))))) := by
    unfold columnRow columnLine
    simp only [String.append_assoc]
  rw [hrow, String.toList_append, String.toList_append, String.toList_append]
  exact ⟨_, rfl⟩

theorem takeWhile_name {name : String} {stop : Char} {rest : List Char} (h : stop ∉ name.toList) :
    String.ofList ((name.toList ++ stop :: rest).takeWhile (· ≠ stop)) = name := by
  have hname : ∀ c ∈ name.toList, decide (c ≠ stop) = true := fun c hc =>
    decide_eq_true fun heq => h (heq ▸ hc)
  rw [List.takeWhile_append_of_pos hname, List.takeWhile_cons_of_neg (by simp), List.append_nil,
    String.ofList_toList]

include h

theorem declaredField?_fieldRow : declaredField? (fieldRow a) = some a.displayName := by
  obtain ⟨rest, hrow⟩ := fieldRow_eq a
  have hblank : ' ' ∉ a.displayName.toList := fun hmem =>
    absurd (h.isAlphanum_of_mem_displayName _ hmem) (by decide)
  rw [declaredField?, afterPrefix?_eq_some_iff.mpr hrow, Option.map_some, takeWhile_name hblank]

theorem declaredColumns_columnRow : declaredColumns (columnRow a) = [a.normalized] := by
  obtain ⟨rest, hrow⟩ := columnRow_eq a
  have hquote : '"' ∉ a.normalized.toList := fun hmem =>
    absurd (h.isNameCharacter_of_mem_normalized _ hmem) (by decide)
  have htimestamps : columnRow a ≠ "\tt.Timestamps()" := by
    intro heq
    rw [heq] at hrow
    cases hrow
  rw [declaredColumns, if_neg htimestamps, afterPrefix?_eq_some_iff.mpr hrow]
  dsimp only
  rw [takeWhile_name hquote]

end Rows

theorem structLines_modelFor (attributes : List Attribute) :
    structLines (modelFor attributes) =
      (model.take 25).drop 18 ++ (attributes.map fieldRow ++ (model.drop 28).take 3) := by
  have hopen : (model.take 25).dropWhile (· ≠ "type User struct \x7b") =
      (model.take 25).drop 17 := rfl
  have hrows : ∀ line ∈ attributes.map fieldRow, decide (line ≠ "\x7d") = true := by
    refine List.forall_mem_map.mpr fun a _ => decide_eq_true fun heq => ?_
    obtain ⟨rest, hrow⟩ := fieldRow_eq a
    rw [heq] at hrow
    cases hrow
  have hclose : (model.drop 28).takeWhile (· ≠ "\x7d") = (model.drop 28).take 3 := rfl
  have hown : ∀ line ∈ (model.take 25).drop 18, decide (line ≠ "\x7d") = true := by decide
  have hlines : ((modelFor attributes).dropWhile (· ≠ "type User struct \x7b")).drop 1 =
      (model.take 25).drop 18 ++ (attributes.map fieldRow ++ model.drop 28) := by
    rw [modelFor, List.append_assoc, List.dropWhile_append, hopen]
    rfl
  rw [structLines, hlines, List.takeWhile_append_of_pos hown, List.takeWhile_append_of_pos hrows,
    hclose]

theorem fieldNames_modelFor {attributes : List Attribute} (h : ∀ a ∈ attributes, a.Readable) :
    fieldNames (modelFor attributes) =
      ownFields.take 7 ++ attributes.map (·.displayName) ++ ownFields.drop 7 := by
  have hbefore : ((model.take 25).drop 18).filterMap declaredField? = ownFields.take 7 :=
    rfl
  have hafter : ((model.drop 28).take 3).filterMap declaredField? = ownFields.drop 7 :=
    rfl
  have hrows : (attributes.map fieldRow).filterMap declaredField? =
      attributes.map (·.displayName) := by
    rw [List.filterMap_map, ← List.filterMap_eq_map]
    apply List.filterMap_congr
    intro a ha
    rw [Function.comp_apply, Function.comp_apply, declaredField?_fieldRow (h a ha)]
  rw [fieldNames, structLines_modelFor, List.filterMap_append, List.filterMap_append, hbefore,
    hrows, hafter, List.append_assoc]

theorem columnNames_migrationFor {attributes : List Attribute}
    (h : ∀ a ∈ attributes, a.Readable) :
    columnNames (migrationFor attributes) =
      ownColumns.take 5 ++ attributes.map (·.normalized) ++ ownColumns.drop 5 := by
  have hbefore : (migration.take 6).flatMap declaredColumns = ownColumns.take 5 :=
    rfl
  have hafter : (migration.drop 9).flatMap declaredColumns = ownColumns.drop 5 :=
    rfl
  have hrows : (attributes.map columnRow).flatMap declaredColumns =
      attributes.map (·.normalized) := by
    rw [List.flatMap_map, List.map_eq_flatMap]
    apply List.flatMap_congr
    intro a ha
    rw [declaredColumns_columnRow (h a ha)]
  rw [columnNames, migrationFor, List.flatMap_append, List.flatMap_append, hbefore, hrows, hafter]

/-! ## Names declared again -/

def ownWords : List (List (List Char)) :=
  [["i", "d"], ["created", "at"], ["updated", "at"], ["email"], ["password", "hash"],
    ["recovery", "code"], ["recovery", "expiration"], ["password"],
    ["password", "confirmation"]].map (List.map String.toList)

theorem ownWords_letters :
    ∀ pieces ∈ ownWords, pieces ≠ [] ∧ ∀ word ∈ pieces, IsLetterWord word := by
  decide

theorem ownFields_eq_map :
    ownFields = ownWords.map fun pieces => String.ofList (capitals pieces) :=
  rfl

theorem displayName_mem_ownFields_iff {a : Attribute} (h : a.Readable) :
    a.displayName ∈ ownFields ↔
      a.normalized ∈ ownWords.map fun pieces => String.ofList (joinWith ['_'] pieces) := by
  rw [ownFields_eq_map, List.mem_map, List.mem_map]
  refine exists_congr fun pieces => and_congr_right fun hpieces => ?_
  obtain ⟨hne, hletters⟩ := ownWords_letters pieces hpieces
  rw [eq_comm, h.displayName_eq_iff hne hletters, eq_comm]

/-- The columns of attributes whose field is one that the model declares itself, although their
names are not reserved. -/
def fieldClashes : List String :=
  ["i_d", "created_at", "updated_at", "password_hash", "password_confirmation"]

/-- The columns that the migration declares itself although their names are not reserved. -/
def columnClashes : List String :=
  ["password_hash", "created_at", "updated_at"]

theorem fieldClashes_eq : fieldClashes =
    (ownWords.map fun pieces => String.ofList (joinWith ['_'] pieces)).filter
      (· ∉ Attribute.reservedNames) :=
  rfl

theorem columnClashes_eq :
    columnClashes = ownColumns.filter (· ∉ Attribute.reservedNames) :=
  rfl

theorem mem_fieldClashes_iff {a : Attribute} (h : a.Readable)
    (hfree : a.normalized ∉ Attribute.reservedNames) :
    a.displayName ∈ ownFields ↔ a.normalized ∈ fieldClashes := by
  rw [displayName_mem_ownFields_iff h, fieldClashes_eq, List.mem_filter,
    and_iff_left (decide_eq_true hfree)]

theorem mem_columnClashes_iff {a : Attribute} (hfree : a.normalized ∉ Attribute.reservedNames) :
    a.normalized ∈ ownColumns ↔ a.normalized ∈ columnClashes := by
  rw [columnClashes_eq, List.mem_filter, and_iff_left (decide_eq_true hfree)]

theorem mem_fieldClashes_of_mem_columnClashes {name : String} (h : name ∈ columnClashes) :
    name ∈ fieldClashes := by
  have hall : ∀ name ∈ columnClashes, name ∈ fieldClashes := by decide
  exact hall name h

/-- The fields of the generated model and the columns of the generated migration are their own ones
and those of the attributes. The attributes of a set keep apart from the names the generated code
declares itself exactly if none of them has one of five names; an attribute with one of these has a
field of the model, and for three of them also a column of the migration. -/
theorem attributes_keep_apart_iff {specs : List String} {set : AttributeSet}
    (h : AttributeSet.ofSpecs specs = .ok set) (project : Project) :
    let context : Context := ⟨project, set⟩
    (renderTemplate "models/user.go" (textOf model) context = .ok (textOf (modelFor set.toList)) ∧
      fieldNames (modelFor []) = ownFields ∧
      fieldNames (modelFor set.toList) =
        ownFields.take 7 ++ set.toList.map (·.displayName) ++ ownFields.drop 7) ∧
    (renderTemplate "migrations/create_users.fizz" (textOf migration) context =
        .ok (textOf (migrationFor set.toList)) ∧
      columnNames (migrationFor []) = ownColumns ∧
      columnNames (migrationFor set.toList) =
        ownColumns.take 5 ++ set.toList.map (·.normalized) ++ ownColumns.drop 5) ∧
    (∀ a ∈ set.toList,
      (a.displayName ∈ ownFields ↔ a.normalized ∈ ["i_d", "created_at", "updated_at",
        "password_hash", "password_confirmation"]) ∧
      (a.normalized ∈ ownColumns ↔
        a.normalized ∈ ["password_hash", "created_at", "updated_at"])) ∧
    ((∀ a ∈ set.toList, a.displayName ∉ ownFields ∧ a.normalized ∉ ownColumns) ↔
      ∀ a ∈ set.toList, a.normalized ∉ ["i_d", "created_at", "updated_at", "password_hash",
        "password_confirmation"]) := by
  intro context
  have hread (a : Attribute) (ha : a ∈ set.toList) := AttributeSet.readable_of_mem h ha
  have hreadable : ∀ a ∈ set.toList, a.Readable := fun a ha => (hread a ha).1
  have hnone : ∀ a ∈ ([] : List Attribute), a.Readable := List.forall_mem_nil _
  have hclash : ∀ a ∈ set.toList,
      (a.displayName ∈ ownFields ↔ a.normalized ∈ fieldClashes) ∧
      (a.normalized ∈ ownColumns ↔ a.normalized ∈ columnClashes) := fun a ha =>
    ⟨mem_fieldClashes_iff (hread a ha).1 (hread a ha).2, mem_columnClashes_iff (hread a ha).2⟩
  refine ⟨⟨renderTemplate_of_render (render_model context), fieldNames_modelFor hnone,
    fieldNames_modelFor hreadable⟩, ⟨renderTemplate_of_render (render_migration context),
    columnNames_migrationFor hnone, columnNames_migrationFor hreadable⟩, hclash, ?_, ?_⟩
  · intro hapart a ha hmem
    exact (hapart a ha).1 ((hclash a ha).1.mpr hmem)
  · intro hfree a ha
    refine ⟨fun hfield => hfree a ha ((hclash a ha).1.mp hfield), fun hcolumn => ?_⟩
    exact hfree a ha (mem_fieldClashes_of_mem_columnClashes ((hclash a ha).2.mp hcolumn))

/-- Of two attributes one is reserved, and the other keeps apart from what is declared. -/
theorem age_keeps_apart :
    let set : AttributeSet := ⟨[⟨"age", "int", false⟩]⟩
    AttributeSet.ofSpecs ["age:int", "Email"] = .ok set ∧
    fieldNames (modelFor set.toList) =
      ["ID", "CreatedAt", "UpdatedAt", "Email", "PasswordHash", "RecoveryCode",
        "RecoveryExpiration", "Age", "Password", "PasswordConfirmation"] ∧
    ∀ a ∈ set.toList, a.displayName ∉ ownFields ∧ a.normalized ∉ ownColumns := by
  intro set
  have hset : AttributeSet.ofSpecs ["age:int", "Email"] = .ok set := by decide +kernel
  obtain ⟨⟨-, -, hfields⟩, -, -, hapart⟩ :=
    attributes_keep_apart_iff hset ⟨"shop", "shop", ⟨"/shop"⟩⟩
  refine ⟨hset, hfields.trans rfl, hapart.mpr ?_⟩
  decide

/-- The name of the hash of the password is not reserved, so both its field and its column can be
declared again; a name of the words `i` and `d` gives the field of the key again. -/
theorem password_hash_declared_twice :
    let set : AttributeSet := ⟨[⟨"password_hash", "string", false⟩, ⟨"iD", "uuid", false⟩]⟩
    AttributeSet.ofSpecs ["password_hash:string", "iD:uuid"] = .ok set ∧
    (fieldNames (modelFor set.toList)).count "PasswordHash" = 2 ∧
    (fieldNames (modelFor set.toList)).count "ID" = 2 ∧
    (columnNames (migrationFor set.toList)).count "password_hash" = 2 ∧
    ¬ ∀ a ∈ set.toList, a.displayName ∉ ownFields ∧ a.normalized ∉ ownColumns := by
  intro set
  have hset : AttributeSet.ofSpecs ["password_hash:string", "iD:uuid"] = .ok set := by
    decide +kernel
  have hread : ∀ a ∈ set.toList, a.Readable := fun a ha =>
    (AttributeSet.readable_of_mem hset ha).1
  rw [fieldNames_modelFor hread, columnNames_migrationFor hread]
  exact ⟨hset, by decide +kernel⟩

end Scaffold.Bundled
