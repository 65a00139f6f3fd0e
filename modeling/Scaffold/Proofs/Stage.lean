import Scaffold.Proofs.Path.Slash
import Scaffold.Recipe.Auth
import Scaffold.Text.Utf8
/-!
# Stages

What each stage does to a draft. A stage either changes the draft in the one way it is made for or
passes it through, and a draft only fails to move to a path that starts at the root. A stamp never
starts with a slash, so the directory alone decides where a stamped file goes.
-/

namespace Scaffold

open Text

namespace RelativePath

variable {p q : RelativePath}

theorem toSlash_congr (h : p.path.components = q.path.components) : p.toSlash = q.toSlash := by
  rw [toSlash, toSlash, Path.toSlash, Path.toSlash, h]

theorem fileName?_congr (h : p.path.components = q.path.components) :
    p.fileName? = q.fileName? := by
  rw [fileName?, fileName?, Path.fileName?, Path.fileName?, h]

end RelativePath

namespace Draft

theorem text?_eq_some_iff {draft : Draft} {text : String} :
    draft.text? = some text ↔ draft.content = text.toUTF8 :=
  Utf8.fromUTF8?_eq_some_iff

theorem text?_toUTF8 (path : RelativePath) (text : String) :
    (⟨path, text.toUTF8⟩ : Draft).text? = some text :=
  text?_eq_some_iff.mpr rfl

theorem text?_eq_none_iff {draft : Draft} :
    draft.text? = none ↔ ¬ draft.content.IsValidUTF8 := by
  rw [text?, String.fromUTF8?]
  split <;> simp [*]

theorem withPath_of_not_absolute (draft : Draft) {path : String}
    (h : (Path.mk path).isAbsolute = false) :
    draft.withPath path = .ok ⟨⟨⟨path⟩, h⟩, draft.content⟩ := by
  rw [withPath, ofText, ofRaw, RelativePath.ofRaw, dif_pos h]

theorem withPath_of_absolute (draft : Draft) {path : String}
    (h : (Path.mk path).isAbsolute = true) :
    draft.withPath path = .error (.absolutePath path) := by
  rw [withPath, ofText, ofRaw, RelativePath.ofRaw, dif_neg (by simp [h]), RawText.shown_ofString]

theorem withPath_eq_ok_iff {draft next : Draft} {path : String} :
    draft.withPath path = .ok next ↔
      ∃ h : (Path.mk path).isAbsolute = false, next = ⟨⟨⟨path⟩, h⟩, draft.content⟩ := by
  by_cases habsolute : (Path.mk path).isAbsolute = false
  · rw [withPath_of_not_absolute draft habsolute]
    constructor
    · exact fun h => ⟨habsolute, (Except.ok.inj h).symm⟩
    · rintro ⟨-, rfl⟩
      rfl
  · rw [withPath_of_absolute draft (by simpa using habsolute)]
    constructor
    · exact fun h => by cases h
    · exact fun ⟨h, _⟩ => absurd h habsolute

theorem hasSuffix_congr {a b : Draft} (h : a.path.path.components = b.path.path.components)
    (ending : String) : a.hasSuffix ending = b.hasSuffix ending := by
  rw [hasSuffix, hasSuffix, RelativePath.toSlash_congr h]

end Draft

namespace Stage

theorem applyAll_cons (stage : Stage) (stages : List Stage) (draft : Draft) :
    applyAll (stage :: stages) draft = (stage.apply draft).bind (applyAll stages) := by
  rw [applyAll]
  cases stage.apply draft <;> rfl

theorem applyAll_append (stages more : List Stage) (draft : Draft) :
    applyAll (stages ++ more) draft = (applyAll stages draft).bind (applyAll more) := by
  induction stages generalizing draft with
  | nil => rfl
  | cons stage stages ih =>
      rw [List.cons_append, applyAll_cons, applyAll_cons]
      cases stage.apply draft with
      | error failure => rfl
      | ok next => exact ih next

theorem applyAll_cons_of_ok {stage : Stage} {draft next : Draft} (h : stage.apply draft = .ok next)
    (stages : List Stage) : applyAll (stage :: stages) draft = applyAll stages next := by
  rw [applyAll, h]

theorem applyAll_cons_eq_ok_iff {stage : Stage} {stages : List Stage} {draft out : Draft} :
    applyAll (stage :: stages) draft = .ok out ↔
      ∃ next, stage.apply draft = .ok next ∧ applyAll stages next = .ok out := by
  rw [applyAll_cons]
  cases stage.apply draft <;> simp [Except.bind]

theorem applyAll_singleton (stage : Stage) (draft : Draft) :
    applyAll [stage] draft = stage.apply draft := by
  rw [applyAll]
  cases stage.apply draft <;> rfl

theorem substitute_text {render : Renderer} {context : Context} {path : RelativePath}
    {source text : String} (h : render path.toSlash source context = .ok text) :
    (substitution render context).apply ⟨path, source.toUTF8⟩ = .ok ⟨path, text.toUTF8⟩ := by
  rw [apply, substitute, Draft.text?_toUTF8]
  dsimp only
  rw [h]
  rfl

theorem substitute_of_no_text {draft : Draft} (render : Renderer) (context : Context)
    (h : draft.text? = none) : (substitution render context).apply draft = .ok draft := by
  rw [apply, substitute, h]

theorem inject_of_isAt_false {target : String} {draft : Draft} (h : draft.isAt target = false)
    (marker : String) (rows : List String) :
    (injection target marker rows).apply draft = .ok draft := by
  rw [apply, inject, if_neg (by rw [h]; exact Bool.false_ne_true)]

theorem inject_of_text {target marker text result : String} {draft : Draft} {rows : List String}
    (hat : draft.isAt target = true) (htext : draft.text? = some text)
    (hrows : insertRows? marker rows text = some result) :
    (injection target marker rows).apply draft = .ok (draft.withText result) := by
  rw [apply, inject, if_pos hat, htext, Option.bind_some, hrows]

theorem inject_of_isAt {target marker text result : String} {path : RelativePath}
    {rows : List String} (hat : (⟨path, text.toUTF8⟩ : Draft).isAt target = true)
    (hrows : insertRows? marker rows text = some result) :
    (injection target marker rows).apply ⟨path, text.toUTF8⟩ = .ok ⟨path, result.toUTF8⟩ :=
  inject_of_text hat (Draft.text?_toUTF8 path text) hrows

theorem inject_of_none {target marker : String} {draft : Draft} {rows : List String}
    (hat : draft.isAt target = true) (h : draft.text?.bind (insertRows? marker rows) = none) :
    (injection target marker rows).apply draft =
      .error (.markerNotFound draft.path.toSlash marker) := by
  rw [apply, inject, if_pos hat, h]

theorem path_of_substitution {render : Renderer} {context : Context} {draft next : Draft}
    (h : (substitution render context).apply draft = .ok next) : next.path = draft.path := by
  rw [apply, substitute] at h
  split at h
  · obtain rfl := Except.ok.inj h
    rfl
  · split at h
    · obtain rfl := Except.ok.inj h
      rfl
    · cases h

theorem path_of_injection {target marker : String} {rows : List String} {draft next : Draft}
    (h : (injection target marker rows).apply draft = .ok next) : next.path = draft.path := by
  rw [apply, inject] at h
  split at h
  · split at h
    · obtain rfl := Except.ok.inj h
      rfl
    · cases h
  · obtain rfl := Except.ok.inj h
    rfl

theorem rename_of_none {old : String} {path : RelativePath}
    (h : beforeSuffix? old.toList path.toSlash.toList = none) (new : String)
    (content : ByteArray) :
    (rename old new).apply ⟨path, content⟩ = .ok ⟨path, content⟩ := by
  rw [apply, renameEnding, h]
  split <;> rfl

theorem rename_of_some {old : String} {path : RelativePath} {stem : List Char} (hold : old ≠ "")
    (h : beforeSuffix? old.toList path.toSlash.toList = some stem) (new : String)
    (content : ByteArray) :
    (rename old new).apply ⟨path, content⟩ =
      (⟨path, content⟩ : Draft).withPath (String.ofList stem ++ new) := by
  rw [apply, renameEnding, if_neg hold, h]

theorem relocate_of_hasSuffix_false {ending : String} {draft : Draft}
    (h : draft.hasSuffix ending = false) (directory : String) (stamp : Stamp) :
    (relocation ending directory stamp).apply draft = .ok draft := by
  rw [apply, relocate, if_neg (by rw [h]; exact Bool.false_ne_true)]

theorem relocate_of_hasSuffix {ending : String} {draft : Draft}
    (h : draft.hasSuffix ending = true) (directory : String) (stamp : Stamp) :
    (relocation ending directory stamp).apply draft =
      draft.withPath (stampedPath directory stamp (draft.path.fileName?.getD "")) := by
  rw [apply, relocate, if_pos h]

theorem isText_of_withPath {draft next : Draft} {path : String}
    (h : draft.withPath path = .ok next) : next.path.path.IsText := by
  obtain ⟨-, rfl⟩ := Draft.withPath_eq_ok_iff.mp h
  exact Path.isText_ofString path

/-- A new path is a text, so what is at a text stays at one. -/
theorem isText_of_apply {stage : Stage} {draft next : Draft} (h : stage.apply draft = .ok next)
    (htext : draft.path.path.IsText) : next.path.path.IsText := by
  cases stage with
  | substitution render context => rwa [path_of_substitution h]
  | injection target marker rows => rwa [path_of_injection h]
  | rename old new =>
      rw [apply, renameEnding] at h
      split at h
      · rwa [← Except.ok.inj h]
      · split at h
        · exact isText_of_withPath h
        · rwa [← Except.ok.inj h]
  | relocation ending directory stamp =>
      rw [apply, relocate] at h
      split at h
      · exact isText_of_withPath h
      · rwa [← Except.ok.inj h]

theorem isText_of_applyAll {stages : List Stage} {draft out : Draft}
    (h : applyAll stages draft = .ok out) (htext : draft.path.path.IsText) :
    out.path.path.IsText := by
  induction stages generalizing draft with
  | nil =>
      obtain rfl := Except.ok.inj h
      exact htext
  | cons stage stages ih =>
      obtain ⟨next, hnext, h⟩ := applyAll_cons_eq_ok_iff.mp h
      exact ih h (isText_of_apply hnext htext)

end Stage

theorem Recipe.stages_auth (directory : String) (render : Renderer) (context : Context)
    (stamp : Stamp) : (Recipe.auth directory).stages render context stamp =
    [.substitution render context,
      .injection Auth.formPath Auth.formMarker (context.attributes.toList.map Auth.formRow),
      .rename ".html" ".plush.html", .relocation ".fizz" directory stamp] := rfl

/-! ## Stamped paths -/

theorem isDigit_of_mem_padded {places n : Nat} {c : Char} (h : c ∈ padded places n) :
    c.isDigit = true := by
  rw [padded, List.mem_append, List.mem_replicate] at h
  rcases h with ⟨-, rfl⟩ | h
  · rfl
  · exact Nat.isDigit_of_mem_toDigits (by decide) (by decide) h

theorem padded_ne_nil (places n : Nat) : padded places n ≠ [] := by
  rw [padded]
  exact List.append_ne_nil_of_right_ne_nil _ Nat.toDigits_ne_nil

theorem head?_padded_ne_slash (places n : Nat) : (padded places n).head? ≠ some '/' := by
  intro h
  have hdigit := isDigit_of_mem_padded (List.mem_of_head? h)
  revert hdigit
  decide

theorem head?_yearDigits_ne_slash (year : Int) :
    (yearDigits year).head? ≠ some '/' ∧ yearDigits year ≠ [] := by
  unfold yearDigits
  split
  · simp
  · split
    · exact ⟨head?_padded_ne_slash _ _, padded_ne_nil _ _⟩
    · simp

theorem head?_stamp_ne_slash (t : Instant) (name : String) :
    (t.stamp.text ++ name).toList.head? ≠ some '/' := by
  obtain ⟨hhead, hne⟩ := head?_yearDigits_ne_slash
    (Calendar.Date.ofDays (t.seconds / 86400)).year
  obtain ⟨c, cs, hyear⟩ := List.exists_cons_of_ne_nil hne
  rw [hyear] at hhead
  rw [Instant.stamp, String.toList_append, String.toList_ofList, Instant.digits,
    hyear]
  exact hhead

/-- A stamped path starts at the root exactly when its directory does, slashes at the end of the
directory left aside. -/
theorem isAbsolute_stampedPath (directory : String) (t : Instant) (name : String) :
    (Path.mk (Stage.stampedPath directory t.stamp name)).isAbsolute = false ↔
      (Stage.bareDirectory directory).head? ≠ some '/' := by
  rw [Path.isAbsolute_ofString_iff, Stage.stampedPath]
  cases hbare : Stage.bareDirectory directory with
  | nil =>
      have hhead := head?_stamp_ne_slash t ("_" ++ name)
      simpa [String.append_assoc] using hhead
  | cons c cs => simp

end Scaffold
