import Scaffold.Proofs.Bundled.Rendered
/-!
# The bundled templates one by one

The bundled templates one by one: which of their lines hold tags, and the text each of them renders
to for a project and its attributes.
-/

namespace Scaffold.Bundled

open Template Lexer

/-! ## Lines with tags -/

theorem login_eq : login = login.take 7 ++ importLine modulePathTag :: login.drop 8 := rfl

theorem recovery_eq : recovery = recovery.take 8 ++ importLine modulePathTag :: recovery.drop 9 :=
  rfl

theorem registration_eq :
    registration = registration.take 5 ++ importLine modulePathTag :: registration.drop 6 := rfl

def modelLast : String :=
  "\tRecoveryExpiration nulls.Time `json:\"-\" db:\"recovery_expiration\"`"

theorem model_eq : model = model.take 24 ++ [modelLast, loopTag,
    fieldLine (attributeTag "display_name") (attributeTag "go_type") (attributeTag "normalized"),
    endTag] ++ model.drop 28 := by
  unfold fieldLine attributeTag
  simp only [String.reduceAppend]
  rfl

def migrationLast : String :=
  "\tt.Column(\"recovery_expiration\", \"timestamp\", \x7b\"null\": true\x7d)"

theorem migration_eq : migration = migration.take 5 ++ [migrationLast, loopTag,
    columnLine (attributeTag "normalized") (attributeTag "column_type") (" " ++ optionTag ++ " "),
    endTag] ++ migration.drop 9 := by
  unfold columnLine attributeTag optionTag
  simp only [String.reduceAppend]
  rfl

/-! ## Lines without tags -/

theorem plain_login : ∀ line ∈ login.take 7 ++ login.drop 8, PlainLine line := by
  simp only [login, List.take_succ_cons, List.take_zero, List.drop_succ_cons, List.drop_zero,
    List.forall_mem_append, List.forall_mem_cons]
  and_intros
  all_goals first | exact plainLine_ofList rfl | exact List.forall_mem_nil _

theorem plain_recovery : ∀ line ∈ recovery.take 8 ++ recovery.drop 9, PlainLine line := by
  simp only [recovery, List.take_succ_cons, List.take_zero, List.drop_succ_cons, List.drop_zero,
    List.forall_mem_append, List.forall_mem_cons]
  and_intros
  all_goals first | exact plainLine_ofList rfl | exact List.forall_mem_nil _

theorem plain_registration :
    ∀ line ∈ registration.take 5 ++ registration.drop 6, PlainLine line := by
  simp only [registration, List.take_succ_cons, List.take_zero, List.drop_succ_cons,
    List.drop_zero, List.forall_mem_append, List.forall_mem_cons]
  and_intros
  all_goals first | exact plainLine_ofList rfl | exact List.forall_mem_nil _

-- the longest lines are read character by character
set_option maxRecDepth 2048 in
theorem plain_model : ∀ line ∈ model.take 25 ++ model.drop 28, PlainLine line := by
  simp only [model, List.take_succ_cons, List.take_zero, List.drop_succ_cons, List.drop_zero,
    List.forall_mem_append, List.forall_mem_cons]
  and_intros
  all_goals first | exact plainLine_ofList rfl | exact List.forall_mem_nil _

theorem plain_migration : ∀ line ∈ migration.take 6 ++ migration.drop 9, PlainLine line := by
  simp only [migration, List.take_succ_cons, List.take_zero, List.drop_succ_cons, List.drop_zero,
    List.forall_mem_append, List.forall_mem_cons]
  and_intros
  all_goals first | exact plainLine_ofList rfl | exact List.forall_mem_nil _

def pages : List String :=
  accountRecovery ++ landing ++ loginForm ++ passwordReset ++ registrationForm

theorem plain_pages : ∀ line ∈ pages, PlainLine line := by
  simp only [pages, accountRecovery, landing, loginForm, passwordReset, registrationForm,
    List.forall_mem_append, List.forall_mem_cons]
  and_intros
  all_goals first | exact plainLine_ofList rfl | exact List.forall_mem_nil _

/-! ## Rendered lines -/

def loginFor (module : String) : List String :=
  login.take 7 ++ importLine module :: login.drop 8

def recoveryFor (module : String) : List String :=
  recovery.take 8 ++ importLine module :: recovery.drop 9

def registrationFor (module : String) : List String :=
  registration.take 5 ++ importLine module :: registration.drop 6

def modelFor (attributes : List Attribute) : List String :=
  model.take 25 ++ attributes.map fieldRow ++ model.drop 28

def migrationFor (attributes : List Attribute) : List String :=
  migration.take 6 ++ attributes.map columnRow ++ migration.drop 9

theorem render_login (context : Context) :
    render (textOf login) context.names = .ok (textOf (loginFor context.project.modulePath)) := by
  obtain ⟨hhead, htail⟩ := List.forall_mem_append.mp plain_login
  have hrender := render_action context hhead htail
  rwa [← login_eq] at hrender

theorem render_recovery (context : Context) :
    render (textOf recovery) context.names =
      .ok (textOf (recoveryFor context.project.modulePath)) := by
  obtain ⟨hhead, htail⟩ := List.forall_mem_append.mp plain_recovery
  have hrender := render_action context hhead htail
  rwa [← recovery_eq] at hrender

theorem render_registration (context : Context) :
    render (textOf registration) context.names =
      .ok (textOf (registrationFor context.project.modulePath)) := by
  obtain ⟨hhead, htail⟩ := List.forall_mem_append.mp plain_registration
  have hrender := render_action context hhead htail
  rwa [← registration_eq] at hrender

theorem getLast?_modelLast : modelLast.toList.getLast? = some '`' := by decide

theorem model_parts : (∀ line ∈ model.take 24, PlainLine line) ∧ PlainLine modelLast ∧
    ∀ line ∈ model.drop 28, PlainLine line := by
  have hsplit : model.take 25 = model.take 24 ++ [modelLast] := rfl
  obtain ⟨hlines, htail⟩ := List.forall_mem_append.mp plain_model
  rw [hsplit] at hlines
  obtain ⟨hhead, hlast⟩ := List.forall_mem_append.mp hlines
  exact ⟨hhead, hlast _ List.mem_cons_self, htail⟩

theorem modelFor_eq (attributes : List Attribute) : modelFor attributes =
    model.take 24 ++ modelLast :: attributes.map fieldRow ++ model.drop 28 := by
  have hsplit : model.take 25 = model.take 24 ++ [modelLast] := rfl
  rw [modelFor, hsplit, List.append_assoc (model.take 24)]
  rfl

theorem render_model (context : Context) :
    render (textOf model) context.names = .ok (textOf (modelFor context.attributes.toList)) := by
  obtain ⟨hhead, hlast, htail⟩ := model_parts
  have hrender := render_fields context hhead hlast getLast?_modelLast (by decide) htail
  rwa [← model_eq, ← modelFor_eq] at hrender

theorem getLast?_migrationLast : migrationLast.toList.getLast? = some ')' := by decide

theorem migration_parts : (∀ line ∈ migration.take 5, PlainLine line) ∧ PlainLine migrationLast ∧
    ∀ line ∈ migration.drop 9, PlainLine line := by
  have hsplit : migration.take 6 = migration.take 5 ++ [migrationLast] := rfl
  obtain ⟨hlines, htail⟩ := List.forall_mem_append.mp plain_migration
  rw [hsplit] at hlines
  obtain ⟨hhead, hlast⟩ := List.forall_mem_append.mp hlines
  exact ⟨hhead, hlast _ List.mem_cons_self, htail⟩

theorem migrationFor_eq (attributes : List Attribute) : migrationFor attributes =
    migration.take 5 ++ migrationLast :: attributes.map columnRow ++ migration.drop 9 := by
  have hsplit : migration.take 6 = migration.take 5 ++ [migrationLast] := rfl
  rw [migrationFor, hsplit, List.append_assoc (migration.take 5)]
  rfl

theorem render_migration (context : Context) :
    render (textOf migration) context.names =
      .ok (textOf (migrationFor context.attributes.toList)) := by
  obtain ⟨hhead, hlast, htail⟩ := migration_parts
  have hrender := render_columns context hhead hlast getLast?_migrationLast (by decide) htail
  rwa [← migration_eq, ← migrationFor_eq] at hrender

end Scaffold.Bundled
