import Scaffold.Proofs.Bundled.Sources
import Scaffold.Proofs.Filesystem.Tree
import Scaffold.Proofs.Run.Phases
import Scaffold.Proofs.Stage
import Scaffold.Proofs.Text.Lines
/-!
# The files of the generator

The files that the authentication generator makes of its bundled templates. Only the migration
can fail to get a path, and only because of the directory it is moved to.
-/

namespace Scaffold.Bundled

open Template Text

def fileAt (path : RelativePath) (lines : List String) : Draft :=
  ⟨path, (textOf lines).toUTF8⟩

def migrationPath : RelativePath := ⟨⟨"migrations/create_users.fizz"⟩, rfl⟩

def registrationFormPath : RelativePath := ⟨⟨"templates/users/new.html"⟩, rfl⟩

def registrationFormOutput : RelativePath := ⟨⟨"templates/users/new.plush.html"⟩, rfl⟩

def authTemplates : List Draft :=
  [fileAt ⟨⟨"actions/auth.go"⟩, rfl⟩ login,
    fileAt ⟨⟨"actions/recovery.go"⟩, rfl⟩ recovery,
    fileAt ⟨⟨"actions/users.go"⟩, rfl⟩ registration,
    fileAt migrationPath migration,
    fileAt ⟨⟨"models/user.go"⟩, rfl⟩ model,
    fileAt ⟨⟨"templates/auth/account_recovery.html"⟩, rfl⟩ accountRecovery,
    fileAt ⟨⟨"templates/auth/landing.html"⟩, rfl⟩ landing,
    fileAt ⟨⟨"templates/auth/new.html"⟩, rfl⟩ loginForm,
    fileAt ⟨⟨"templates/auth/password_reset.html"⟩, rfl⟩ passwordReset,
    fileAt registrationFormPath registrationForm]

theorem mapM_ofNames_auth : (auth.collect []).mapM Draft.ofNames = .ok authTemplates := by
  rfl

theorem components_authTemplates : authTemplates.map (·.path.path.components) =
    [[.name "actions", .name "auth.go"], [.name "actions", .name "recovery.go"],
      [.name "actions", .name "users.go"], [.name "migrations", .name "create_users.fizz"],
      [.name "models", .name "user.go"],
      [.name "templates", .name "auth", .name "account_recovery.html"],
      [.name "templates", .name "auth", .name "landing.html"],
      [.name "templates", .name "auth", .name "new.html"],
      [.name "templates", .name "auth", .name "password_reset.html"],
      [.name "templates", .name "users", .name "new.html"]] := by
  decide

theorem isText_authTemplates : ∀ template ∈ authTemplates, template.path.path.IsText := by
  have text := Path.isText_ofString
  simp only [authTemplates, List.forall_mem_cons]
  exact ⟨text _, text _, text _, text _, text _, text _, text _, text _, text _, text _, nofun⟩

theorem sort_authTemplates : Draft.sort authTemplates = authTemplates := by
  apply Draft.sort_of_pairwise
  rw [components_authTemplates]
  decide

theorem ofFiles_auth : Draft.ofFiles (auth.collect []) = .ok authTemplates := by
  rw [Draft.ofFiles, mapM_ofNames_auth]
  exact congrArg Except.ok sort_authTemplates

/-! ## The stages -/

section Stages

variable (directory : String) (context : Context) (stamp : Stamp)

theorem renderTemplate_of_render {path source out : String} {context : Context}
    (h : render source context.names = .ok out) : renderTemplate path source context = .ok out := by
  rw [renderTemplate, h]

theorem isAt_formPath {path : RelativePath} {lines : List String}
    (h : path.toSlash ≠ Recipe.Auth.formPath) :
    (fileAt path lines).isAt Recipe.Auth.formPath = false := by
  have hdrop : Draft.dropHere Recipe.Auth.formPath.toList = Recipe.Auth.formPath.toList := by
    decide
  refine decide_eq_false ?_
  rw [hdrop]
  exact fun heq => h (String.toList_inj.mp heq)

variable {context}

theorem applyAll_action {path : RelativePath} {source out : List String}
    (hrender : render (textOf source) context.names = .ok (textOf out))
    (hform : path.toSlash ≠ Recipe.Auth.formPath)
    (hpage : beforeSuffix? ".html".toList path.toSlash.toList = none)
    (hmigration : ".fizz".toList.isSuffixOf path.toSlash.toList = false) :
    Stage.applyAll ((Recipe.auth directory).stages renderTemplate context stamp) (fileAt path source) =
      .ok (fileAt path out) := by
  have hrendered : (Stage.substitution renderTemplate context).apply (fileAt path source) =
      .ok (fileAt path out) :=
    Stage.substitute_text (renderTemplate_of_render hrender)
  have hkeep : (Stage.rename ".html" ".plush.html").apply (fileAt path out) =
      .ok (fileAt path out) := Stage.rename_of_none hpage _ _
  have hstay : (fileAt path out).hasSuffix ".fizz" = false := hmigration
  rw [Recipe.stages_auth, Stage.applyAll_cons_of_ok hrendered,
    Stage.applyAll_cons_of_ok (Stage.inject_of_isAt_false (isAt_formPath hform) _ _),
    Stage.applyAll_cons_of_ok hkeep,
    Stage.applyAll_cons_of_ok (Stage.relocate_of_hasSuffix_false hstay _ _), Stage.applyAll]

theorem applyAll_rename {path renamed : RelativePath} {content : ByteArray} {stem : String}
    (hpage : beforeSuffix? ".html".toList path.toSlash.toList = some stem.toList)
    (hrenamed : renamed.path = ⟨(stem ++ ".plush.html" : String)⟩)
    (hmigration : ".fizz".toList.isSuffixOf renamed.toSlash.toList = false) :
    Stage.applyAll [.rename ".html" ".plush.html", .relocation ".fizz" directory stamp]
      ⟨path, content⟩ = .ok ⟨renamed, content⟩ := by
  obtain ⟨path', hrelative⟩ := renamed
  obtain rfl : path' = ⟨(stem ++ ".plush.html" : String)⟩ := hrenamed
  have hrename : (Stage.rename ".html" ".plush.html").apply ⟨path, content⟩ =
      .ok ⟨⟨⟨(stem ++ ".plush.html" : String)⟩, hrelative⟩, content⟩ := by
    rw [Stage.rename_of_some (by decide) hpage _ _, String.ofList_toList,
      Draft.withPath_of_not_absolute _ hrelative]
  have hstay : (⟨⟨⟨(stem ++ ".plush.html" : String)⟩, hrelative⟩, content⟩ : Draft).hasSuffix
      ".fizz" = false := hmigration
  rw [Stage.applyAll_cons_of_ok hrename,
    Stage.applyAll_cons_of_ok (Stage.relocate_of_hasSuffix_false hstay _ _), Stage.applyAll]

theorem applyAll_page {path renamed : RelativePath} {lines : List String} {stem : String}
    (hplain : ∀ line ∈ lines, PlainLine line) (hform : path.toSlash ≠ Recipe.Auth.formPath)
    (hpage : beforeSuffix? ".html".toList path.toSlash.toList = some stem.toList)
    (hrenamed : renamed.path = ⟨(stem ++ ".plush.html" : String)⟩)
    (hmigration : ".fizz".toList.isSuffixOf renamed.toSlash.toList = false) :
    Stage.applyAll ((Recipe.auth directory).stages renderTemplate context stamp) (fileAt path lines) =
      .ok (fileAt renamed lines) := by
  have hrendered : (Stage.substitution renderTemplate context).apply (fileAt path lines) =
      .ok (fileAt path lines) :=
    Stage.substitute_text (renderTemplate_of_render (render_page context.names hplain))
  rw [Recipe.stages_auth, Stage.applyAll_cons_of_ok hrendered,
    Stage.applyAll_cons_of_ok (Stage.inject_of_isAt_false (isAt_formPath hform) _ _)]
  exact applyAll_rename directory stamp hpage hrenamed hmigration

theorem applyAll_migration :
    Stage.applyAll ((Recipe.auth directory).stages renderTemplate context stamp)
        (fileAt migrationPath migration) =
      (fileAt migrationPath
        (migrationFor context.attributes.toList)).withPath
        (Stage.stampedPath directory stamp "create_users.fizz") := by
  let rendered := fileAt migrationPath (migrationFor context.attributes.toList)
  have hrendered : (Stage.substitution renderTemplate context).apply
      (fileAt migrationPath migration) = .ok rendered :=
    Stage.substitute_text (renderTemplate_of_render (render_migration context))
  have hform : migrationPath.toSlash ≠ Recipe.Auth.formPath := by decide
  have hkeep : (Stage.rename ".html" ".plush.html").apply rendered = .ok rendered :=
    Stage.rename_of_none (by decide) _ _
  have hsuffix : rendered.hasSuffix ".fizz" = true := by
    change ".fizz".toList.isSuffixOf migrationPath.toSlash.toList = true
    decide
  have hname : rendered.path.fileName?.getD "" = "create_users.fizz" := by
    change migrationPath.fileName?.getD "" = _
    decide
  rw [Recipe.stages_auth, Stage.applyAll_cons_of_ok hrendered,
    Stage.applyAll_cons_of_ok (Stage.inject_of_isAt_false (isAt_formPath hform) _ _),
    Stage.applyAll_cons_of_ok hkeep, Stage.applyAll_singleton,
    Stage.relocate_of_hasSuffix hsuffix, hname]

theorem exists_insertRows?_form (rows : List String) :
    ∃ form, Stage.insertRows? Recipe.Auth.formMarker rows (textOf registrationForm) =
      some form := by
  have hline : registrationForm = registrationForm.take 7 ++
      ("      " ++ (Recipe.Auth.formMarker ++ ", \x7btype: \"password\"\x7d) %>")) ::
        registrationForm.drop 8 := rfl
  have hinfix : Recipe.Auth.formMarker.toList <:+: (textOf registrationForm).toList := by
    rw [hline, textOf_append, textOf_cons]
    refine ⟨(textOf (registrationForm.take 7) ++ "      ").toList,
      (", \x7btype: \"password\"\x7d) %>\n" ++ textOf (registrationForm.drop 8)).toList, ?_⟩
    rw [← String.toList_append, ← String.toList_append]
    simp only [String.append_assoc]
    rfl
  have hfound := Line.find?_isSome_iff.mpr
    ((Line.infix_iff_exists_line (by decide) (by decide)).mp hinfix)
  obtain ⟨line, hline⟩ := Option.isSome_iff_exists.mp hfound
  rw [Stage.insertRows?, hline]
  exact ⟨_, rfl⟩

theorem exists_applyAll_form :
    ∃ form : String, Stage.applyAll ((Recipe.auth directory).stages renderTemplate context stamp)
        (fileAt registrationFormPath registrationForm) =
      .ok ⟨registrationFormOutput, form.toUTF8⟩ := by
  obtain ⟨form, hform⟩ :=
    exists_insertRows?_form (context.attributes.toList.map Recipe.Auth.formRow)
  refine ⟨form, ?_⟩
  have hplain : ∀ line ∈ registrationForm, PlainLine line :=
    fun line hline => plain_pages line (List.mem_append_right _ hline)
  have hrendered : (Stage.substitution renderTemplate context).apply
      (fileAt registrationFormPath registrationForm) =
      .ok (fileAt registrationFormPath registrationForm) :=
    Stage.substitute_text (renderTemplate_of_render (render_page context.names hplain))
  have hat : (fileAt registrationFormPath registrationForm).isAt Recipe.Auth.formPath = true := by
    change decide (registrationFormPath.toSlash.toList =
      Draft.dropHere Recipe.Auth.formPath.toList) = true
    decide
  have hinjected : (Stage.injection Recipe.Auth.formPath Recipe.Auth.formMarker
      (context.attributes.toList.map Recipe.Auth.formRow)).apply
        (fileAt registrationFormPath registrationForm) =
      .ok ⟨registrationFormPath, form.toUTF8⟩ :=
    Stage.inject_of_isAt hat hform
  rw [Recipe.stages_auth, Stage.applyAll_cons_of_ok hrendered, Stage.applyAll_cons_of_ok hinjected]
  exact @applyAll_rename directory stamp registrationFormPath registrationFormOutput _
    "templates/users/new" (by decide) (by decide) (by decide)

end Stages

/-! ## The generated files -/

/-- The generated files of a context, given where the migration goes and the text of the form. -/
def authFiles (context : Context) (migrationAt : RelativePath) (form : String) : List Draft :=
  [fileAt ⟨⟨"actions/auth.go"⟩, rfl⟩ (loginFor context.project.modulePath),
    fileAt ⟨⟨"actions/recovery.go"⟩, rfl⟩ (recoveryFor context.project.modulePath),
    fileAt ⟨⟨"actions/users.go"⟩, rfl⟩ (registrationFor context.project.modulePath),
    fileAt migrationAt (migrationFor context.attributes.toList),
    fileAt ⟨⟨"models/user.go"⟩, rfl⟩ (modelFor context.attributes.toList),
    fileAt ⟨⟨"templates/auth/account_recovery.plush.html"⟩, rfl⟩ accountRecovery,
    fileAt ⟨⟨"templates/auth/landing.plush.html"⟩, rfl⟩ landing,
    fileAt ⟨⟨"templates/auth/new.plush.html"⟩, rfl⟩ loginForm,
    fileAt ⟨⟨"templates/auth/password_reset.plush.html"⟩, rfl⟩ passwordReset,
    ⟨registrationFormOutput, form.toUTF8⟩]

variable {directory : String} {request : Request} {stamp : Stamp}

/-- With a relative path for the migration every template becomes a file. -/
theorem outputs_auth
    (h : (Path.mk (Stage.stampedPath directory stamp "create_users.fizz")).isAbsolute = false) :
    ∃ form, Run.outputs (Recipe.auth directory) renderTemplate request stamp authTemplates =
      .ok (authFiles ⟨request.project, request.attributes⟩
        ⟨⟨Stage.stampedPath directory stamp "create_users.fizz"⟩, h⟩ form) := by
  let context : Context := ⟨request.project, request.attributes⟩
  obtain ⟨hpages, -⟩ := List.forall_mem_append.mp plain_pages
  obtain ⟨hpages, hreset⟩ := List.forall_mem_append.mp hpages
  obtain ⟨hpages, hnew⟩ := List.forall_mem_append.mp hpages
  obtain ⟨haccount, hlanding⟩ := List.forall_mem_append.mp hpages
  obtain ⟨form, hform⟩ := @exists_applyAll_form directory context stamp
  refine ⟨form, (Run.outputs_eq_ok_iff _ _ _ _).mpr ?_⟩
  refine .cons ?_ (.cons ?_ (.cons ?_ (.cons ?_ (.cons ?_ (.cons ?_ (.cons ?_ (.cons ?_ (.cons ?_
    (.cons hform .nil)))))))))
  · exact applyAll_action directory stamp (render_login context) (by decide)
      (by decide) (by decide)
  · exact applyAll_action directory stamp (render_recovery context) (by decide)
      (by decide) (by decide)
  · exact applyAll_action directory stamp (render_registration context) (by decide)
      (by decide) (by decide)
  · exact (@applyAll_migration directory context stamp).trans
      (Draft.withPath_of_not_absolute _ h)
  · exact applyAll_action directory stamp (render_model context) (by decide)
      (by decide) (by decide)
  · exact @applyAll_page directory context stamp _ _ _ "templates/auth/account_recovery" haccount
      (by decide) (by decide) (by decide) (by decide)
  · exact @applyAll_page directory context stamp _ _ _ "templates/auth/landing" hlanding
      (by decide) (by decide) (by decide) (by decide)
  · exact @applyAll_page directory context stamp _ _ _ "templates/auth/new" hnew
      (by decide) (by decide) (by decide) (by decide)
  · exact @applyAll_page directory context stamp _ _ _ "templates/auth/password_reset" hreset
      (by decide) (by decide) (by decide) (by decide)

/-- With an absolute path for the migration there are no files. -/
theorem not_absolute_of_outputs_eq_ok {drafts : List Draft}
    (h : Run.outputs (Recipe.auth directory) renderTemplate request stamp authTemplates =
      .ok drafts) :
    (Path.mk (Stage.stampedPath directory stamp "create_users.fizz")).isAbsolute = false := by
  rw [Bool.eq_false_iff]
  intro habsolute
  rw [Run.outputs_eq_ok_iff] at h
  obtain _ | ⟨-, h⟩ := h
  obtain _ | ⟨-, h⟩ := h
  obtain _ | ⟨-, h⟩ := h
  obtain _ | ⟨hmigration, -⟩ := h
  rw [applyAll_migration, Draft.withPath_of_absolute _ habsolute] at hmigration
  cases hmigration

end Scaffold.Bundled
