import Scaffold.Proofs.Bundled.Outputs
import Scaffold.Proofs.Text.Replacement
/-!
# Templates filled in

The bundled templates as texts with places to fill. A project fills in its module path, and the
attributes fill in a row each for the loops of the model and the migration; everything else in a
template stays as it is.
-/

namespace Scaffold.Bundled

open Template Lexer Text

/-! ## Keys of delimiters -/

/-- A key that is a tag, or a tag at the beginning of a line. -/
def IsKey (key : List Char) : Prop :=
  opens key = true ∨ ∃ tag, key = '\n' :: tag ∧ opens tag = true

theorem opens_of_isPrefix {key cs : List Char} (hkey : opens key = true) (h : key <+: cs) :
    opens cs = true := by
  obtain ⟨rest, rfl⟩ := h
  unfold opens at hkey
  split at hkey
  · exact hkey
  · cases hkey

theorem opens_append_eq_false {part : List Char} (hne : part ≠ []) (hplain : isPlain part = true)
    (hlast : part.getLast? ≠ some '\x7b') (rest : List Char) : opens (part ++ rest) = false := by
  obtain ⟨c, cs, rfl⟩ := List.exists_cons_of_ne_nil hne
  rw [List.cons_append, opens_cons_append hlast]
  exact (isPlain_cons.mp hplain).1

/-- No key begins in a text without a delimiter, unless that text ends inside the key. -/
theorem free_of_isPlain {table : List (String × String)} {front rest : List Char}
    (htable : ∀ entry ∈ table, IsKey entry.1.toList) (hplain : isPlain front = true)
    (hbrace : front.getLast? ≠ some '\x7b')
    (hline : opens rest = true → front.getLast? ≠ some '\n') : Free table front rest := by
  intro part hpart hne
  obtain ⟨before, rfl⟩ := hpart
  have hlast : part.getLast? = (before ++ part).getLast? := by
    rw [List.getLast?_append_of_ne_nil _ hne]
  rw [← hlast] at hbrace hline
  have hpart := isPlain_of_append hplain
  rw [entryAt?, List.find?_eq_none]
  intro entry hentry hprefix
  rw [List.isPrefixOf_iff_prefix] at hprefix
  rcases htable entry hentry with hopens | ⟨tag, htag, hopens⟩
  · have hfalse := opens_append_eq_false hne hpart hbrace rest
    rw [opens_of_isPrefix hopens hprefix] at hfalse
    cases hfalse
  · obtain ⟨c, cs, rfl⟩ := List.exists_cons_of_ne_nil hne
    rw [htag, List.cons_append, List.cons_prefix_cons] at hprefix
    obtain ⟨rfl, hprefix⟩ := hprefix
    have hrest := opens_of_isPrefix hopens hprefix
    by_cases hcs : cs = []
    · -- the key would begin with the last line end of the text
      subst hcs
      exact hline hrest rfl
    · have hfalse := opens_append_eq_false hcs (isPlain_cons.mp hpart).2
        (getLast?_ne_of_cons hbrace) rest
      rw [hrest] at hfalse
      cases hfalse

/-! ## What is filled in -/

def fieldLoop : String :=
  loopOf (fieldLine (attributeTag "display_name") (attributeTag "go_type")
    (attributeTag "normalized"))

def columnLoop : String :=
  loopOf (columnLine (attributeTag "normalized") (attributeTag "column_type")
    (" " ++ optionTag ++ " "))

/-- What the bundled templates ask for, and what a project and its attributes fill in. -/
def inserts (context : Context) : List (String × String) :=
  [(modulePathTag, context.project.modulePath),
    (fieldLoop, rowsOf fieldRow context.attributes),
    (columnLoop, rowsOf columnRow context.attributes)]

def fill (context : Context) (source : String) : String :=
  replace (inserts context) source

theorem toList_loopOf (line : String) : (loopOf line).toList =
    '\n' :: (loopTag.toList ++ '\n' :: (line.toList ++ '\n' :: endTag.toList)) := by
  simp only [loopOf, String.toList_append, List.append_assoc]
  rfl

theorem isKey_of_mem_inserts {context : Context} :
    ∀ entry ∈ inserts context, IsKey entry.1.toList := by
  have htag : IsKey modulePathTag.toList := .inl (by decide)
  have hloop (line : String) : IsKey (loopOf line).toList :=
    .inr ⟨_, toList_loopOf line, rfl⟩
  simp only [inserts, List.forall_mem_cons]
  exact ⟨htag, hloop _, hloop _, List.forall_mem_nil _⟩

theorem not_modulePathTag_isPrefix (line : String) (rest : List Char) :
    ¬ modulePathTag.toList <+: (loopOf line).toList ++ rest := by
  rw [toList_loopOf]
  exact not_prefix_of_head?_ne (by decide) (by rw [List.cons_append, List.head?_cons]; decide)

theorem line_isPrefix_of_loopOf {line other : String} {rest : List Char}
    (h : (loopOf line).toList <+: (loopOf other).toList ++ rest) :
    line.toList <+: other.toList ++ '\n' :: (endTag.toList ++ rest) := by
  rw [toList_loopOf, toList_loopOf, List.cons_append, List.cons_prefix_cons, List.append_assoc,
    List.prefix_append_right_inj, List.cons_append, List.cons_prefix_cons, List.append_assoc] at h
  exact (List.prefix_append _ _).trans h.2.2

theorem exists_toList_fieldLine (name type column : String) :
    ∃ cs, (fieldLine name type column).toList = '\t' :: (name.toList ++ cs) := by
  unfold fieldLine
  simp only [String.toList_append, List.append_assoc]
  exact ⟨_, rfl⟩

theorem exists_toList_columnLine (name type option : String) :
    ∃ cs, (columnLine name type option).toList = '\t' :: 't' :: cs := by
  unfold columnLine
  simp only [String.toList_append, List.append_assoc]
  exact ⟨_, rfl⟩

/-- After the same indentation the line of a field begins with the brace of a tag, and that of a
column does not. -/
theorem not_fieldLoop_isPrefix (rest : List Char) :
    ¬ fieldLoop.toList <+: columnLoop.toList ++ rest := by
  intro h
  have hline := line_isPrefix_of_loopOf h
  obtain ⟨_, hfield⟩ := exists_toList_fieldLine (attributeTag "display_name")
    (attributeTag "go_type") (attributeTag "normalized")
  obtain ⟨_, hcolumn⟩ := exists_toList_columnLine (attributeTag "normalized")
    (attributeTag "column_type") (" " ++ optionTag ++ " ")
  have htag : (attributeTag "display_name").toList =
      '\x7b' :: (attributeTag "display_name").toList.tail := by decide
  rw [hfield, hcolumn, htag, List.cons_append, List.cons_append, List.cons_append,
    List.cons_prefix_cons, List.cons_prefix_cons] at hline
  exact absurd hline.2.1 (by decide)

theorem entryAt?_fieldLoop (context : Context) (rest : List Char) :
    entryAt? (inserts context) (fieldLoop.toList ++ rest) =
      some (fieldLoop, rowsOf fieldRow context.attributes) := by
  have htag : ¬ modulePathTag.toList <+: fieldLoop.toList ++ rest :=
    not_modulePathTag_isPrefix _ rest
  rw [inserts, entryAt?_cons_of_not_isPrefix _ htag]
  exact entryAt?_cons_self _ _ _

theorem entryAt?_columnLoop (context : Context) (rest : List Char) :
    entryAt? (inserts context) (columnLoop.toList ++ rest) =
      some (columnLoop, rowsOf columnRow context.attributes) := by
  have htag : ¬ modulePathTag.toList <+: columnLoop.toList ++ rest :=
    not_modulePathTag_isPrefix _ rest
  rw [inserts, entryAt?_cons_of_not_isPrefix _ htag,
    entryAt?_cons_of_not_isPrefix _ (not_fieldLoop_isPrefix rest)]
  exact entryAt?_cons_self _ _ _

/-! ## Templates filled in -/

theorem getLast?_textOf (lines : List String) : (textOf lines).toList.getLast? ≠ some '\x7b' := by
  rcases List.eq_nil_or_concat lines with rfl | ⟨init, line, rfl⟩
  · simp [textOf]
  · rw [List.concat_eq_append, textOf_append, textOf_cons]
    simp [textOf]

section

variable (context : Context)

theorem free_textOf {lines : List String} (h : ∀ line ∈ lines, PlainLine line) :
    Free (inserts context) (textOf lines).toList [] :=
  free_of_isPlain isKey_of_mem_inserts (isPlain_textOf h) (getLast?_textOf lines)
    (fun hopens => by cases hopens)

theorem fill_of_plainLines {lines : List String} (h : ∀ line ∈ lines, PlainLine line) :
    fill context (textOf lines) = textOf lines :=
  replace_of_free (free_textOf context h)

/-- One key among plain lines, in the middle of a line or at its end. -/
theorem fill_of_key {head tail : List String} {piece key value : String} {last : Char}
    (hkey : key ≠ "")
    (hentry : ∀ rest, entryAt? (inserts context) (key.toList ++ rest) = some (key, value))
    (hhead : ∀ line ∈ head, PlainLine line) (hpiece : PlainLine piece)
    (hlast : piece.toList.getLast? = some last) (hbrace : last ≠ '\x7b') (hline : last ≠ '\n')
    (htail : ∀ line ∈ tail, PlainLine line) :
    fill context (textOf head ++ piece ++ key ++ textOf tail) =
      textOf head ++ piece ++ value ++ textOf tail := by
  have hplain : isPlain (textOf head ++ piece).toList = true := by
    rw [String.toList_append]
    exact isPlain_textOf_append hhead hpiece
  have hend : (textOf head ++ piece).toList.getLast? = some last := by
    rw [String.toList_append, List.getLast?_append, hlast]
    rfl
  have hfront : Free (inserts context) (textOf head ++ piece).toList
      (key.toList ++ (textOf tail).toList) := by
    refine free_of_isPlain isKey_of_mem_inserts hplain ?_ ?_
    · rw [hend]
      simpa using hbrace
    · intro _
      rw [hend]
      simpa using hline
  exact replace_append_of_free hkey (hentry _) hfront (free_textOf context htail)

theorem fill_action {lines head tail : List String}
    (hlines : lines = head ++ importLine modulePathTag :: tail)
    (hplain : ∀ line ∈ head ++ tail, PlainLine line) :
    fill context (textOf lines) =
      textOf (head ++ importLine context.project.modulePath :: tail) := by
  obtain ⟨hhead, htail⟩ := List.forall_mem_append.mp hplain
  have hlast : "\t\"".toList.getLast? = some '"' := by decide
  have hmodels : PlainLine "/models\"" := plainLine_ofList rfl
  have hback : "/models\"\n" ++ textOf tail = textOf ("/models\"" :: tail) := by
    rw [textOf_cons]
    rfl
  rw [hlines, textOf_importLine, textOf_importLine, hback]
  exact fill_of_key context (by decide) (entryAt?_cons_self _ _) hhead (plainLine_ofList rfl) hlast
    (by decide) (by decide) (List.forall_mem_cons.mpr ⟨hmodels, htail⟩)

theorem fill_loop {lines head tail : List String} {last line : String} {c : Char}
    {row : Attribute → String} (hlines : lines = head ++ [last, loopTag, line, endTag] ++ tail)
    (hentry : ∀ rest, entryAt? (inserts context) ((loopOf line).toList ++ rest) =
      some (loopOf line, rowsOf row context.attributes))
    (hhead : ∀ line ∈ head, PlainLine line) (hlast : PlainLine last)
    (hend : last.toList.getLast? = some c) (hbrace : c ≠ '\x7b') (hnewline : c ≠ '\n')
    (htail : ∀ line ∈ tail, PlainLine line) :
    fill context (textOf lines) =
      textOf (head ++ last :: context.attributes.toList.map row ++ tail) := by
  have hne : loopOf line ≠ "" := by
    rw [ne_eq, ← String.toList_eq_nil_iff, toList_loopOf]
    exact List.cons_ne_nil _ _
  have hback : "\n" ++ textOf tail = textOf ("" :: tail) := (textOf_cons "" tail).symm
  rw [hlines, textOf_loop, textOf_rows, hback]
  exact fill_of_key context hne hentry hhead hlast hend hbrace hnewline
    (List.forall_mem_cons.mpr ⟨rfl, htail⟩)

theorem fill_model :
    fill context (textOf model) = textOf (modelFor context.attributes.toList) := by
  obtain ⟨hhead, hlast, htail⟩ := model_parts
  rw [modelFor_eq]
  exact fill_loop context model_eq (entryAt?_fieldLoop context) hhead hlast getLast?_modelLast
    (by decide) (by decide) htail

theorem fill_migration :
    fill context (textOf migration) = textOf (migrationFor context.attributes.toList) := by
  obtain ⟨hhead, hlast, htail⟩ := migration_parts
  rw [migrationFor_eq]
  exact fill_loop context migration_eq (entryAt?_columnLoop context) hhead hlast
    getLast?_migrationLast (by decide) (by decide) htail

end

theorem exists_lines_of_mem_authTemplates {draft : Draft} (h : draft ∈ authTemplates) :
    ∃ lines, draft.text? = some (textOf lines) ∧
      ∀ context : Context, render (textOf lines) context.names =
        .ok (fill context (textOf lines)) := by
  have hfile (path : RelativePath) {lines : List String} (hrender : ∀ context : Context,
      render (textOf lines) context.names = .ok (fill context (textOf lines))) :
      ∃ given, (fileAt path lines).text? = some (textOf given) ∧
        ∀ context : Context, render (textOf given) context.names =
          .ok (fill context (textOf given)) :=
    ⟨lines, Draft.text?_toUTF8 path _, hrender⟩
  have hpage (path : RelativePath) {page : List String} (hpages : ∀ line ∈ page, PlainLine line) :=
    hfile path fun context => by rw [render_page _ hpages, fill_of_plainLines context hpages]
  have hplain := plain_pages
  simp only [pages, List.forall_mem_append, and_assoc] at hplain
  obtain ⟨haccount, hlanding, hlogin, hpassword, hregistration⟩ := hplain
  revert draft
  simp only [authTemplates, List.forall_mem_cons]
  refine ⟨hfile _ fun context => ?_, hfile _ fun context => ?_, hfile _ fun context => ?_,
    hfile _ fun context => ?_, hfile _ fun context => ?_, hpage _ haccount, hpage _ hlanding,
    hpage _ hlogin, hpage _ hpassword, hpage _ hregistration, List.forall_mem_nil _⟩
  · rw [render_login, fill_action context login_eq plain_login]
    rfl
  · rw [render_recovery, fill_action context recovery_eq plain_recovery]
    rfl
  · rw [render_registration, fill_action context registration_eq plain_registration]
    rfl
  · rw [render_migration, fill_migration]
  · rw [render_model, fill_model]

theorem rowsOf_fieldRow (attributes : AttributeSet) : rowsOf fieldRow attributes =
    String.join (attributes.toList.map fun a =>
      "\n\t" ++ a.displayName ++ " " ++ a.fieldType ++ " `json:\"" ++ a.normalized ++ "\" db:\"" ++
        a.normalized ++ "\"`") := by
  unfold rowsOf fieldRow fieldLine
  simp only [← String.append_assoc, String.reduceAppend]

theorem rowsOf_columnRow (attributes : AttributeSet) : rowsOf columnRow attributes =
    String.join (attributes.toList.map fun a =>
      "\n\tt.Column(\"" ++ a.normalized ++ "\", \"" ++ a.columnType ++ "\", \x7b" ++
        (if a.isNullable then "\"null\": true" else "") ++ "\x7d)") := by
  unfold rowsOf columnRow columnLine
  simp only [← String.append_assoc, String.reduceAppend]
  rfl

/-- Every bundled template renders, for every project and all attributes, to its text filled in. The
model holds its loop, and there one field for each attribute is shown; the migration holds its loop,
and there one column for each attribute is shown, in the same order. -/
theorem auth_templates_fill :
    ∃ drafts, Draft.ofFiles (auth.collect []) = .ok drafts ∧
      (∀ draft ∈ drafts, ∃ source, draft.text? = some source ∧ ∀ context,
        renderTemplate draft.path.toSlash source context = .ok (fill context source)) ∧
      (∃ draft ∈ drafts, draft.path.toSlash = "models/user.go" ∧
        ∃ front back, draft.text? = some (front ++ fieldLoop ++ back) ∧ ∀ context,
          renderTemplate draft.path.toSlash (front ++ fieldLoop ++ back) context =
            .ok (front ++ String.join (context.attributes.toList.map fun a =>
              "\n\t" ++ a.displayName ++ " " ++ a.fieldType ++ " `json:\"" ++ a.normalized ++
                "\" db:\"" ++ a.normalized ++ "\"`") ++ back)) ∧
      ∃ draft ∈ drafts, draft.path.toSlash = "migrations/create_users.fizz" ∧
        ∃ front back, draft.text? = some (front ++ columnLoop ++ back) ∧ ∀ context,
          renderTemplate draft.path.toSlash (front ++ columnLoop ++ back) context =
            .ok (front ++ String.join (context.attributes.toList.map fun a =>
              "\n\tt.Column(\"" ++ a.normalized ++ "\", \"" ++ a.columnType ++ "\", \x7b" ++
                (if a.isNullable then "\"null\": true" else "") ++ "\x7d)") ++ back) := by
  have hmodel : textOf model = textOf (model.take 24) ++ modelLast ++ fieldLoop ++
      ("\n" ++ textOf (model.drop 28)) :=
    (congrArg textOf model_eq).trans (textOf_loop _ _ _ _)
  have hmigration : textOf migration = textOf (migration.take 5) ++ migrationLast ++ columnLoop ++
      ("\n" ++ textOf (migration.drop 9)) :=
    (congrArg textOf migration_eq).trans (textOf_loop _ _ _ _)
  refine ⟨authTemplates, ofFiles_auth, ?_, ?_, ?_⟩
  · intro draft hdraft
    obtain ⟨lines, htext, hrender⟩ := exists_lines_of_mem_authTemplates hdraft
    exact ⟨textOf lines, htext, fun context => renderTemplate_of_render (hrender context)⟩
  · have hmem : fileAt ⟨⟨"models/user.go"⟩, rfl⟩ model ∈ authTemplates :=
      List.mem_of_getElem? (i := 4) rfl
    refine ⟨_, hmem, rfl, _, _,
      (Draft.text?_toUTF8 _ _).trans (congrArg some hmodel), fun context => ?_⟩
    have hrender := render_model context
    rw [hmodel, modelFor_eq, textOf_rows, rowsOf_fieldRow] at hrender
    exact renderTemplate_of_render hrender
  · have hmem : fileAt migrationPath migration ∈ authTemplates :=
      List.mem_of_getElem? (i := 3) rfl
    refine ⟨_, hmem, rfl, _, _,
      (Draft.text?_toUTF8 _ _).trans (congrArg some hmigration), fun context => ?_⟩
    have hrender := render_migration context
    rw [hmigration, migrationFor_eq, textOf_rows, rowsOf_columnRow] at hrender
    exact renderTemplate_of_render hrender

end Scaffold.Bundled
