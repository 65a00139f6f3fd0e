import Scaffold.Proofs.Stage
/-!
# Destinations

Where the templates of the authentication generator go. A page gets a new ending, a migration moves
to the directory of the migrations, and every other template stays at its path. Two templates whose
paths are texts meet in one file only if they were in one file before, or if both are migrations of
one name. Names that are no texts are taken as they are shown, or lost, so they meet more often.
-/

namespace Scaffold

open Text Scaffold.Path

/-! ## Endings -/

theorem Draft.components_join_toSlash {draft : Draft} (h : draft.path.path.IsText) (root : Path) :
    (root.join ⟨draft.path.toSlash⟩).components = (root.join draft.path.path).components :=
  Path.components_join_toSlash draft.path.not_absolute h root

theorem Path.HasEnding.exists_name {p : Path} {ending : String} (h : HasEnding ending p.components)
    (htext : p.IsText) : ∃ above name,
      p.components = above ++ [.name (RawText.ofString name)] ∧ p.fileName? = some name := by
  obtain ⟨above, raw, stem, heq, -⟩ := h
  have hraw : raw.IsText := @IsText.of_mem _ htext (.name raw) (by rw [heq]; simp)
  refine ⟨above, raw.shown, by rw [heq, ← RawText.isText_iff.mp hraw], ?_⟩
  rw [fileName?, heq, List.getLast?_concat]
  exact RawText.text?_of_isText hraw

theorem Draft.hasSuffix_iff {draft : Draft} {ending : String} (hname : IsName ending)
    (hending : '/' ∉ ending.toList) :
    draft.hasSuffix ending = true ↔ HasEnding ending draft.path.path.components := by
  rw [hasSuffix, List.isSuffixOf_iff_suffix]
  constructor
  · rintro ⟨stem, hstem⟩
    have hslash : draft.path.path.toSlash = String.ofList stem ++ ending := by
      rw [← String.toList_inj, String.toList_append, String.toList_ofList]
      exact hstem.symm
    obtain ⟨above, last, hlossy, -⟩ :=
      exists_name_of_toSlash draft.path.not_absolute hname hending hslash
    exact hasEnding_iff_lossy.mpr ⟨above, last, hlossy⟩
  · rintro ⟨above, raw, stem, hcomponents, hshown⟩
    have hsuffix := suffix_toSlash hcomponents
    rw [hshown, String.toList_append] at hsuffix
    exact (List.suffix_append _ _).trans hsuffix

/-! ## What single stages do to a path -/

namespace Stage

variable {draft next : Draft}

theorem rename_cases {old new : String} (hold : IsName old) (hslash : '/' ∉ old.toList)
    (hnew : IsName new) (hslash' : '/' ∉ new.toList)
    (h : (rename old new).apply draft = .ok next) :
    (draft.hasSuffix old = false ∧ next = draft) ∨
      ∃ above stem,
        draft.path.path.components.map Component.lossy = above ++ [.name (stem ++ old : String)] ∧
        next.path.path.components = above ++ [.name (stem ++ new : String)] := by
  have hne : old ≠ "" := by
    rintro rfl
    exact hold.ne_nil rfl
  rw [apply, renameEnding, if_neg hne] at h
  cases hstem : beforeSuffix? old.toList draft.path.toSlash.toList with
  | none =>
      rw [hstem] at h
      obtain rfl := Except.ok.inj h
      refine .inl ⟨?_, rfl⟩
      rw [Bool.eq_false_iff]
      intro hsuffix
      obtain ⟨stem, heq⟩ := List.isSuffixOf_iff_suffix.mp hsuffix
      rw [beforeSuffix?_eq_some_iff.mpr heq.symm] at hstem
      cases hstem
  | some stem =>
      rw [hstem] at h
      obtain ⟨habsolute, rfl⟩ := Draft.withPath_eq_ok_iff.mp h
      have htext : draft.path.path.toSlash = String.ofList stem ++ old := by
        rw [← String.toList_inj, String.toList_append, String.toList_ofList]
        exact beforeSuffix?_eq_some_iff.mp hstem
      obtain ⟨above, last, hlossy, hother⟩ :=
        exists_name_of_toSlash draft.path.not_absolute hold hslash htext
      exact .inr ⟨above, last, hlossy, hother new hnew hslash'⟩

end Stage

/-! ## Stamped paths -/

theorem slash_notMem_padded (places n : Nat) : '/' ∉ padded places n := by
  intro h
  exact absurd (isDigit_of_mem_padded h) (by decide)

theorem slash_notMem_stamp (t : Instant) : '/' ∉ t.stamp.text.toList := by
  have hyear : '/' ∉ yearDigits (Calendar.Date.ofDays (t.seconds / 86400)).year := by
    unfold yearDigits
    split
    · simp [slash_notMem_padded]
    · split <;> simp [slash_notMem_padded]
  rw [Instant.stamp, String.toList_ofList, Instant.digits]
  simp [hyear, slash_notMem_padded]

def Recipe.Auth.folder (directory : String) : List Component :=
  (Path.mk (String.ofList (Stage.bareDirectory directory))).components

theorem isName_stamped (t : Instant) (name : String) :
    IsName (t.stamp.text ++ "_" ++ name : String) := by
  have hrest : (RawText.ofString ("_" ++ name)).octets =
      0x5F :: (RawText.ofString name).octets := by
    rw [RawText.ofString_append]
    rfl
  rw [String.append_assoc, RawText.ofString_append]
  refine IsName.append ⟨?_, ?_, ?_⟩ _ <;> rw [hrest] <;> simp [dot]

theorem components_stampedPath (directory : String) (t : Instant) {name : String}
    (h : '/' ∉ name.toList) :
    (Path.mk (Stage.stampedPath directory t.stamp name)).components =
      Recipe.Auth.folder directory ++ [.name (t.stamp.text ++ "_" ++ name : String)] := by
  have hname := isName_stamped t name
  have hslash : '/' ∉ (t.stamp.text ++ "_" ++ name).toList := by
    simp [slash_notMem_stamp, h]
  rw [Stage.stampedPath, Recipe.Auth.folder]
  generalize t.stamp.text ++ "_" ++ name = stamped at *
  cases Stage.bareDirectory directory with
  | nil =>
      have hsegments : (Path.mk stamped).segments = [] ++ [(RawText.ofString stamped).octets] := by
        rw [segments_ofString, fields_of_notMem hslash]
        rfl
      change (Path.mk stamped).components = [] ++ _
      rw [components, hsegments, componentsOf_concat hname (by simp)]
      rfl
  | cons c cs =>
      apply components_concat_name _ hname hslash
      rw [ne_eq, ← String.toList_inj, String.toList_ofList]
      simp

theorem Stage.relocation_cases {ending directory : String} {t : Instant} {draft next : Draft}
    (hname : IsName ending) (hslash : '/' ∉ ending.toList)
    (h : (Stage.relocation ending directory t.stamp).apply draft = .ok next) :
    (draft.hasSuffix ending = false ∧ next = draft) ∨
      HasEnding ending draft.path.path.components ∧
        next.path.path.components = Recipe.Auth.folder directory ++
          [.name (t.stamp.text ++ "_" ++ draft.path.fileName?.getD "" : String)] := by
  cases hsuffix : draft.hasSuffix ending with
  | false =>
      rw [relocate_of_hasSuffix_false hsuffix] at h
      exact .inl ⟨rfl, (Except.ok.inj h).symm⟩
  | true =>
      rw [relocate_of_hasSuffix hsuffix] at h
      obtain ⟨habsolute, rfl⟩ := Draft.withPath_eq_ok_iff.mp h
      exact .inr ⟨(Draft.hasSuffix_iff hname hslash).mp hsuffix,
        components_stampedPath directory t (slash_notMem_fileName draft.path.path)⟩

/-! ## All stages -/

namespace Recipe.Auth

/-- How the generator moves a path. A page gets a new ending and is spelled as it was shown, a
migration moves to a folder with a stamp before its name, which is lost if it is no text, and what is
neither stays where it is. -/
structure Moves (folder : List Component) (stamp : String) (p p' : Path) : Prop where
  page : ∀ above stem,
    p.components.map Component.lossy = above ++ [.name (stem ++ ".html" : String)] →
      p'.components = above ++ [.name (stem ++ ".plush.html" : String)]
  migration : HasEnding ".fizz" p.components →
    p'.components = folder ++ [.name (stamp ++ "_" ++ p.fileName?.getD "" : String)]
  other : ¬ HasEnding ".html" p.components → ¬ HasEnding ".fizz" p.components →
    p'.components = p.components

theorem html_ne_fizz (stem stem' : String) : stem ++ ".html" ≠ stem' ++ ".fizz" := by
  intro h
  have hlast := congrArg (·.toList.getLast?) h
  simp at hlast

theorem not_migration_of_page {components : List Component} (hpage : HasEnding ".html" components) :
    ¬ HasEnding ".fizz" components := by
  rintro ⟨above, raw, stem, rfl, hmigration⟩
  obtain ⟨stem', hpage⟩ := hasEnding_concat_iff.mp hpage
  exact html_ne_fizz stem' stem (hpage.symm.trans hmigration)

theorem renamed_eq (stem : String) : stem ++ ".plush.html" = stem ++ ".plush" ++ ".html" := by
  rw [String.append_assoc]
  rfl

theorem hasEnding_html_renamed {p' : Path} {above : List Component} {stem : String}
    (h : p'.components = above ++ [.name (stem ++ ".plush.html" : String)]) :
    HasEnding ".html" p'.components := by
  rw [h, hasEnding_concat_iff]
  exact ⟨stem ++ ".plush", by rw [RawText.shown_ofString, renamed_eq]⟩

theorem isName_html : IsName ".html" := ⟨by decide, by decide, by decide⟩

theorem isName_fizz : IsName ".fizz" := ⟨by decide, by decide, by decide⟩

/-- Every template that gets through the stages moves in this way. -/
theorem moves_of_applyAll {directory : String} {render : Renderer} {context : Context}
    {t : Instant} {template draft : Draft}
    (h : Stage.applyAll ((auth directory).stages render context t.stamp) template = .ok draft) :
    Moves (folder directory) t.stamp.text template.path.path draft.path.path := by
  rw [stages_auth, Stage.applyAll_cons_eq_ok_iff] at h
  obtain ⟨rendered, hrendered, h⟩ := h
  obtain ⟨injected, hinjected, h⟩ := Stage.applyAll_cons_eq_ok_iff.mp h
  obtain ⟨renamed, hrenamed, h⟩ := Stage.applyAll_cons_eq_ok_iff.mp h
  rw [Stage.applyAll_singleton] at h
  have hkept : injected.path = template.path :=
    (Stage.path_of_injection hinjected).trans (Stage.path_of_substitution hrendered)
  rw [← hkept]
  have hmove := Stage.relocation_cases isName_fizz (by decide) h
  obtain ⟨hpage, rfl⟩ | ⟨above, stem, hpage, hrenamed⟩ :=
    Stage.rename_cases isName_html (by decide) ⟨by decide, by decide, by decide⟩ (by decide)
      hrenamed
  · have hpage : ¬ HasEnding ".html" renamed.path.path.components := by
      rw [← Draft.hasSuffix_iff isName_html (by decide), hpage]
      exact Bool.false_ne_true
    refine ⟨fun above stem hlossy => ?_, fun hmigration => ?_, fun _ hmigration => ?_⟩
    · exact absurd (hasEnding_iff_lossy.mpr ⟨above, stem, hlossy⟩) hpage
    · obtain ⟨hother, -⟩ | ⟨-, hmoved⟩ := hmove
      · rw [← Draft.hasSuffix_iff isName_fizz (by decide), hother] at hmigration
        cases hmigration
      · exact hmoved
    · obtain ⟨-, rfl⟩ | ⟨hmigration', -⟩ := hmove
      · rfl
      · exact absurd hmigration' hmigration
  · have hkind : HasEnding ".html" injected.path.path.components :=
      hasEnding_iff_lossy.mpr ⟨above, stem, hpage⟩
    obtain ⟨-, rfl⟩ | ⟨hmigration, -⟩ := hmove
    · refine ⟨fun above' stem' hlossy => ?_,
        fun hmigration => absurd hmigration (not_migration_of_page hkind),
        fun hother => absurd hkind hother⟩
      obtain ⟨rfl, hname⟩ := List.append_singleton_inj.mp (hpage.symm.trans hlossy)
      have hstem := RawText.ofString_inj.mp (Component.name.inj hname)
      rw [hrenamed, (String.append_left_inj _).mp hstem]
    · exact absurd hmigration (not_migration_of_page (hasEnding_html_renamed hrenamed))

/-! ## Templates that meet -/

section

variable {folder : List Component} {stamp : String} {p p' q q' : Path} {root : Path}

/-- The name of a migration is lost, or it has the ending of migrations. -/
theorem fileName?_of_migration (h : HasEnding ".fizz" p.components) :
    p.fileName? = none ∨ ∃ stem, p.fileName? = some (stem ++ ".fizz") := by
  obtain ⟨above, raw, stem, hcomponents, hshown⟩ := h
  rw [fileName?, hcomponents, List.getLast?_concat]
  cases hraw : raw.text? with
  | none => exact .inl hraw
  | some text =>
      obtain rfl := RawText.text?_eq_some_iff.mp hraw
      exact .inr ⟨stem, by rw [← hshown]; simp⟩

def unnamed (folder : List Component) (stamp : String) : List Component :=
  folder ++ [.name (stamp ++ "_" : String)]

theorem not_hasEnding_unnamed {ending : String} (h : ending.toList.getLast?.any (· ≠ '_')) :
    ¬ HasEnding ending (unnamed folder stamp) := by
  rw [unnamed, hasEnding_concat_iff, RawText.shown_ofString]
  rintro ⟨stem, heq⟩
  have hlast := congrArg (·.toList.getLast?) heq
  cases hending : ending.toList.getLast? with
  | none => simp [hending] at h
  | some c =>
      simp [hending] at hlast h
      exact h hlast.symm

theorem Moves.migration_cases (h : Moves folder stamp p p') (hmigration : HasEnding ".fizz" p.components) :
    (p.fileName? = none ∧ p'.components = unnamed folder stamp) ∨
      p.fileName? ≠ none ∧ HasEnding ".fizz" p'.components := by
  rcases fileName?_of_migration hmigration with hnone | ⟨stem, hname⟩
  · refine .inl ⟨hnone, ?_⟩
    rw [h.migration hmigration, hnone, Option.getD_none, String.append_empty, unnamed]
  · refine .inr ⟨by simp [hname], ?_⟩
    rw [h.migration hmigration, hname, Option.getD_some, hasEnding_concat_iff,
      RawText.shown_ofString]
    exact ⟨stamp ++ "_" ++ stem, String.append_assoc.symm⟩

theorem Moves.page_iff (h : Moves folder stamp p p') :
    HasEnding ".html" p'.components ↔ HasEnding ".html" p.components := by
  by_cases hpage : HasEnding ".html" p.components
  · obtain ⟨above, stem, hlossy⟩ := hasEnding_iff_lossy.mp hpage
    exact iff_of_true (hasEnding_html_renamed (h.page above stem hlossy)) hpage
  · refine iff_of_false (fun hpage' => ?_) hpage
    by_cases hmigration : HasEnding ".fizz" p.components
    · obtain ⟨-, hmoved⟩ | ⟨-, hmoved⟩ := h.migration_cases hmigration
      · rw [hmoved] at hpage'
        exact not_hasEnding_unnamed (by decide) hpage'
      · exact not_migration_of_page hpage' hmoved
    · rw [h.other hpage hmigration] at hpage'
      exact hpage hpage'

theorem hasEnding_congr {ending : String}
    (h : within root p.components = within root q.components) :
    HasEnding ending p.components ↔ HasEnding ending q.components := by
  rw [← hasEnding_within_iff root, h, hasEnding_within_iff]

theorem Moves.pages_eq_iff (hp : Moves folder stamp p p') (hq : Moves folder stamp q q')
    (hpage : HasEnding ".html" p.components) (hpage' : HasEnding ".html" q.components) :
    within root p'.components = within root q'.components ↔
      within root (p.components.map Component.lossy) =
        within root (q.components.map Component.lossy) := by
  obtain ⟨above, stem, hlossy⟩ := hasEnding_iff_lossy.mp hpage
  obtain ⟨above', stem', hlossy'⟩ := hasEnding_iff_lossy.mp hpage'
  rw [hp.page above stem hlossy, hq.page above' stem' hlossy', hlossy, hlossy']
  simp [within_concat_name, RawText.ofString_inj]

theorem Moves.migrations_eq_iff (hp : Moves folder stamp p p') (hq : Moves folder stamp q q')
    (hmigration : HasEnding ".fizz" p.components) (hmigration' : HasEnding ".fizz" q.components) :
    within root p'.components = within root q'.components ↔ p.fileName? = q.fileName? := by
  have hnames : within root p'.components = within root q'.components ↔
      p.fileName?.getD "" = q.fileName?.getD "" := by
    rw [hp.migration hmigration, hq.migration hmigration']
    simp [within_concat_name, RawText.ofString_inj]
  have hne (stem : String) : stem ++ ".fizz" ≠ "" := by simp
  rw [hnames]
  rcases fileName?_of_migration hmigration with hname | ⟨stem, hname⟩ <;>
    rcases fileName?_of_migration hmigration' with hname' | ⟨stem', hname'⟩ <;>
      simp [hname, hname', hne, (hne _).symm]

/-- A migration falls on a template that is no migration only if its name is lost. -/
theorem Moves.migration_eq_other_iff (hp : Moves folder stamp p p') (hq : Moves folder stamp q q')
    (hmigration : HasEnding ".fizz" p.components) (hpage : ¬ HasEnding ".html" q.components)
    (hother : ¬ HasEnding ".fizz" q.components) :
    within root p'.components = within root q'.components ↔
      p.fileName? = none ∧ within root q.components = within root (unnamed folder stamp) := by
  have hkept := hq.other hpage hother
  obtain ⟨hnone, hmoved⟩ | ⟨hname, hmoved⟩ := hp.migration_cases hmigration
  · rw [hmoved, hkept, and_iff_right hnone]
    exact eq_comm
  · -- with its name the migration keeps its ending, which the other template lacks
    refine iff_of_false (fun heq => ?_) fun h => hname h.1
    rw [hkept] at heq
    exact hother ((hasEnding_congr heq).mp hmoved)

/-- A migration whose name is lost falls on another template. -/
def FallsOn (folder : List Component) (stamp : String) (root p q : Path) : Prop :=
  HasEnding ".fizz" p.components ∧ p.fileName? = none ∧
    within root q.components = within root (unnamed folder stamp)

theorem FallsOn.other {ending : String} (h : FallsOn folder stamp root p q)
    (hending : ending.toList.getLast?.any (· ≠ '_')) : ¬ HasEnding ending q.components := by
  rw [← hasEnding_within_iff root, h.2.2, unnamed, within_concat_name]
  exact not_hasEnding_unnamed hending

theorem fileName?_congr (hmigration : HasEnding ".fizz" p.components)
    (h : within root p.components = within root q.components) : p.fileName? = q.fileName? := by
  obtain ⟨above, raw, -, hp, -⟩ := hmigration
  rw [hp, within_concat_name] at h
  obtain ⟨above', hq⟩ := exists_concat_of_within h.symm
  rw [fileName?, fileName?, hp, hq, List.getLast?_concat, List.getLast?_concat]

/-- Two templates meet in one file exactly if they were in one file, are pages that are shown alike,
are migrations of one name, or are a migration whose name is lost and what it falls on. -/
theorem Moves.within_eq_iff (hp : Moves folder stamp p p') (hq : Moves folder stamp q q')
    (root : Path) :
    within root p'.components = within root q'.components ↔
      within root p.components = within root q.components ∨
      (HasEnding ".html" p.components ∧ HasEnding ".html" q.components ∧
        within root (p.components.map Component.lossy) =
          within root (q.components.map Component.lossy)) ∨
      (HasEnding ".fizz" p.components ∧ HasEnding ".fizz" q.components ∧
        p.fileName? = q.fileName?) ∨
      FallsOn folder stamp root p q ∨ FallsOn folder stamp root q p := by
  constructor
  · intro heq
    -- pages are still pages after the move, so they meet with pages only
    have hpages : HasEnding ".html" p.components ↔ HasEnding ".html" q.components := by
      rw [← hp.page_iff, ← hq.page_iff, hasEnding_congr heq]
    by_cases hpage : HasEnding ".html" p.components
    · exact .inr (.inl ⟨hpage, hpages.mp hpage,
        (hp.pages_eq_iff hq hpage (hpages.mp hpage)).mp heq⟩)
    · have hpage' := mt hpages.mpr hpage
      by_cases hfirst : HasEnding ".fizz" p.components <;>
        by_cases hsecond : HasEnding ".fizz" q.components
      · exact .inr (.inr (.inl ⟨hfirst, hsecond,
          (hp.migrations_eq_iff hq hfirst hsecond).mp heq⟩))
      · exact .inr (.inr (.inr (.inl ⟨hfirst,
          (hp.migration_eq_other_iff hq hfirst hpage' hsecond).mp heq⟩)))
      · exact .inr (.inr (.inr (.inr ⟨hsecond,
          (hq.migration_eq_other_iff hp hsecond hpage hfirst).mp heq.symm⟩)))
      · rw [hp.other hpage hfirst, hq.other hpage' hsecond] at heq
        exact .inl heq
  · rintro (hsame | ⟨hpage, hpage', hshown⟩ | ⟨hfirst, hsecond, hname⟩ | hfalls | hfalls)
    · by_cases hpage : HasEnding ".html" p.components
      · rw [hp.pages_eq_iff hq hpage ((hasEnding_congr hsame).mp hpage), within_map_lossy, hsame,
          within_map_lossy]
      · have hpage' := mt (hasEnding_congr hsame).mpr hpage
        by_cases hfirst : HasEnding ".fizz" p.components
        · rw [hp.migrations_eq_iff hq hfirst ((hasEnding_congr hsame).mp hfirst)]
          exact fileName?_congr hfirst hsame
        · rw [hp.other hpage hfirst, hq.other hpage' (mt (hasEnding_congr hsame).mpr hfirst)]
          exact hsame
    · exact (hp.pages_eq_iff hq hpage hpage').mpr hshown
    · exact (hp.migrations_eq_iff hq hfirst hsecond).mpr hname
    · exact (hp.migration_eq_other_iff hq hfalls.1 (hfalls.other (by decide))
        (hfalls.other (by decide))).mpr hfalls.2
    · exact ((hq.migration_eq_other_iff hp hfalls.1 (hfalls.other (by decide))
        (hfalls.other (by decide))).mpr hfalls.2).symm

/-- If both paths are texts, only what was in one file and migrations of one name meet. -/
theorem Moves.within_eq_iff_of_isText (hp : Moves folder stamp p p') (hq : Moves folder stamp q q')
    (htext : p.IsText) (htext' : q.IsText) (root : Path) :
    within root p'.components = within root q'.components ↔
      within root p.components = within root q.components ∨
        (HasEnding ".fizz" p.components ∧ HasEnding ".fizz" q.components ∧
          p.fileName? = q.fileName?) := by
  have hnamed {a b : Path} (ha : a.IsText) : ¬ FallsOn folder stamp root a b := by
    rintro ⟨hmigration, hnone, -⟩
    obtain ⟨_, name, -, hname⟩ := hmigration.exists_name ha
    rw [hnone] at hname
    cases hname
  rw [hp.within_eq_iff hq, htext.map_lossy, htext'.map_lossy]
  simp only [hnamed htext, hnamed htext', or_false]
  constructor
  · rintro (hsame | ⟨-, -, hsame⟩ | hnames)
    · exact .inl hsame
    · exact .inl hsame
    · exact .inr hnames
  · exact Or.imp_right .inr

end

/-- Two templates whose paths are texts and which the generator writes to one file: they are in one
file already, or they are migrations of one name. -/
def Meet (root : Path) (a b : Draft) : Prop :=
  (root.join a.path.path).components = (root.join b.path.path).components ∨
    (a.hasSuffix ".fizz" = true ∧ b.hasSuffix ".fizz" = true ∧ a.path.fileName? = b.path.fileName?)

instance (root : Path) (a b : Draft) : Decidable (Meet root a b) :=
  inferInstanceAs (Decidable (_ ∨ _))

section

variable {directory : String} {render : Renderer} {context : Context} {t : Instant}
  {a b c d : Draft}

theorem join_eq_iff_meet
    (ha : Stage.applyAll ((auth directory).stages render context t.stamp) a = .ok c)
    (hb : Stage.applyAll ((auth directory).stages render context t.stamp) b = .ok d)
    (htext : a.path.path.IsText) (htext' : b.path.path.IsText) (root : Path) :
    (root.join c.path.path).components = (root.join d.path.path).components ↔ Meet root a b := by
  rw [components_join_eq_iff c.path.not_absolute d.path.not_absolute,
    (moves_of_applyAll ha).within_eq_iff_of_isText (moves_of_applyAll hb) htext htext', Meet,
    components_join_eq_iff a.path.not_absolute b.path.not_absolute,
    Draft.hasSuffix_iff isName_fizz (by decide), Draft.hasSuffix_iff isName_fizz (by decide),
    RelativePath.fileName?, RelativePath.fileName?]

/-- The setup file is neither a page nor a migration, so only a template that is at its path
already gets there. -/
theorem join_eq_setupPath_iff
    (ha : Stage.applyAll ((auth directory).stages render context t.stamp) a = .ok c)
    (htext : a.path.path.IsText) (root : Path) :
    (root.join c.path.path).components = (root.join ⟨setupPath⟩).components ↔
      (root.join a.path.path).components = (root.join ⟨setupPath⟩).components := by
  have hsetup : (Path.mk setupPath).components =
      [.name (RawText.ofString "actions")] ++ [.name (RawText.ofString "app.go")] := by decide
  have hother (ending : String) (hending : ¬ ending.toList <:+ "app.go".toList) :
      ¬ HasEnding ending (Path.mk setupPath).components := by
    rw [hsetup, hasEnding_concat_iff, RawText.shown_ofString]
    rintro ⟨stem, heq⟩
    rw [heq, String.toList_append] at hending
    exact hending (List.suffix_append _ _)
  have hmigration := hother ".fizz" (by decide)
  have hstays : Moves (folder directory) t.stamp.text ⟨setupPath⟩ ⟨setupPath⟩ :=
    ⟨fun above stem hlossy => absurd (hasEnding_iff_lossy.mpr ⟨above, stem, hlossy⟩)
        (hother ".html" (by decide)),
      fun h => absurd h hmigration, fun _ _ => rfl⟩
  have hrelative : (Path.mk setupPath).isAbsolute = false := rfl
  rw [components_join_eq_iff c.path.not_absolute hrelative,
    (moves_of_applyAll ha).within_eq_iff_of_isText hstays htext (isText_ofString _),
    components_join_eq_iff a.path.not_absolute hrelative]
  exact or_iff_left fun h => hmigration h.2.1

/-- Two templates become files of one path exactly when they are at one path, are pages that are
shown alike, are migrations of one name, or are a migration whose name is no text and a template
where such a migration goes. If their paths are texts, they are at one path or migrations of one
name: the new ending of pages then brings no two templates together, and a migration comes together
with migrations only. -/
theorem output_paths_eq_iff
    (ha : Stage.applyAll ((auth directory).stages render context t.stamp) a = .ok c)
    (hb : Stage.applyAll ((auth directory).stages render context t.stamp) b = .ok d) :
    let lost := Path.mk (Stage.stampedPath directory t.stamp "")
    (c.path.path.components = d.path.path.components ↔
      a.path.path.components = b.path.path.components ∨
        (a.hasSuffix ".html" = true ∧ b.hasSuffix ".html" = true ∧
          a.path.toSlash = b.path.toSlash) ∨
        (a.hasSuffix ".fizz" = true ∧ b.hasSuffix ".fizz" = true ∧
          a.path.fileName? = b.path.fileName?) ∨
        (a.hasSuffix ".fizz" = true ∧ a.path.fileName? = none ∧
          b.path.path.components = lost.components) ∨
        (b.hasSuffix ".fizz" = true ∧ b.path.fileName? = none ∧
          a.path.path.components = lost.components)) ∧
    (a.path.path.IsText → b.path.path.IsText →
      (c.path.path.components = d.path.path.components ↔
        a.path.path.components = b.path.path.components ∨
          (a.hasSuffix ".fizz" = true ∧ b.hasSuffix ".fizz" = true ∧
            a.path.path.components.getLast? = b.path.path.components.getLast?)) ∧
      (a.hasSuffix ".fizz" = false → b.hasSuffix ".fizz" = false →
        (c.path.path.components = d.path.path.components ↔
          a.path.path.components = b.path.path.components)) ∧
      (a.hasSuffix ".fizz" = true → b.hasSuffix ".fizz" = false →
        c.path.path.components ≠ d.path.path.components)) := by
  intro lost
  have hlost : lost.components = unnamed (folder directory) t.stamp.text := by
    rw [components_stampedPath directory t (by simp), String.append_empty, unnamed]
  have hwithin (components : List Component) : within ⟨""⟩ components = components := if_pos rfl
  have hsuffix {ending : String} (hname : IsName ending) (hslash : '/' ∉ ending.toList)
      (draft : Draft) := @Draft.hasSuffix_iff draft ending hname hslash
  have hmoves := moves_of_applyAll ha
  have hmoves' := moves_of_applyAll hb
  constructor
  · have hiff := hmoves.within_eq_iff hmoves' ⟨""⟩
    simp only [FallsOn, hwithin, ← hlost] at hiff
    rw [hiff, hsuffix isName_html (by decide), hsuffix isName_html (by decide),
      hsuffix isName_fizz (by decide), hsuffix isName_fizz (by decide), RelativePath.toSlash,
      RelativePath.toSlash, toSlash_eq_iff_lossy a.path.not_absolute b.path.not_absolute]
    rfl
  · intro htext htext'
    have hiff := hmoves.within_eq_iff_of_isText hmoves' htext htext' ⟨""⟩
    simp only [hwithin, ← hsuffix isName_fizz (by decide)] at hiff
    -- both names are there, so the last components are compared as the names are
    have hlast (hfirst : a.hasSuffix ".fizz" = true) (hsecond : b.hasSuffix ".fizz" = true) :
        a.path.path.fileName? = b.path.path.fileName? ↔
          a.path.path.components.getLast? = b.path.path.components.getLast? := by
      obtain ⟨_, m, hm, hm'⟩ := ((hsuffix isName_fizz (by decide) a).mp hfirst).exists_name htext
      obtain ⟨_, n, hn, hn'⟩ := ((hsuffix isName_fizz (by decide) b).mp hsecond).exists_name htext'
      simp [hm, hm', hn, hn', RawText.ofString_inj]
    refine ⟨?_, ?_, ?_⟩
    · rw [hiff]
      exact or_congr_right (and_congr_right fun hfirst => and_congr_right fun hsecond =>
        hlast hfirst hsecond)
    · intro hfirst hsecond
      rw [hiff, hfirst, hsecond]
      simp
    · intro hfirst hsecond heq
      rcases hiff.mp heq with hsame | ⟨-, hboth, -⟩
      · rw [Draft.hasSuffix_congr hsame, hsecond] at hfirst
        cases hfirst
      · rw [hsecond] at hboth
        cases hboth

/-- Migrations of one name from two directories, moved to a directory that is not written in the
shortest way. -/
theorem output_paths_of_namesakes :
    let stages := (auth "db//migrate/.").stages (fun _ source _ => .ok source)
      ⟨.ofRoot ⟨"/work/shop"⟩, .empty⟩ (Instant.stamp ⟨0, by decide⟩)
    let a : Draft := ⟨⟨⟨"old/users.fizz"⟩, rfl⟩, "drop_table(\"users\")\n".toUTF8⟩
    let b : Draft := ⟨⟨⟨"./new/users.fizz"⟩, rfl⟩, "add_table(\"users\")\n".toUTF8⟩
    ∃ c d, Stage.applyAll stages a = .ok c ∧ Stage.applyAll stages b = .ok d ∧
      c.path.text = "db//migrate/./19700101000000_users.fizz" ∧
      c.path.path.components = d.path.path.components := by
  intro stages a b
  have hfirst : (Stage.applyAll stages a).map (·.path.text) =
      .ok "db//migrate/./19700101000000_users.fizz" := by decide +kernel
  have hsecond : (Stage.applyAll stages b).map (·.path.text) =
      .ok "db//migrate/./19700101000000_users.fizz" := by decide +kernel
  cases ha : Stage.applyAll stages a with
  | error failure => rw [ha] at hfirst; cases hfirst
  | ok c =>
      cases hb : Stage.applyAll stages b with
      | error failure => rw [hb] at hsecond; cases hsecond
      | ok d =>
          rw [ha] at hfirst
          refine ⟨c, d, rfl, rfl, Except.ok.inj hfirst, ?_⟩
          exact ((output_paths_eq_iff ha hb).2 (isText_ofString _) (isText_ofString _)).1.mpr
            (.inr ⟨by decide, by decide, by decide⟩)

/-- Names that are no texts: two migrations of different names lose them and meet, and so do two
pages of different names, which are shown alike. -/
theorem output_paths_of_lost_names :
    let stages := (auth "migrations").stages (fun _ source _ => .ok source)
      ⟨.ofRoot ⟨"/work/shop"⟩, .empty⟩ (Instant.stamp ⟨0, by decide⟩)
    let a : Draft := ⟨⟨⟨"a/x" ++ RawText.mk [0xFF] ++ ".fizz"⟩, rfl⟩, .empty⟩
    let b : Draft := ⟨⟨⟨"b/y" ++ RawText.mk [0xFF] ++ ".fizz"⟩, rfl⟩, .empty⟩
    let page : Draft := ⟨⟨⟨RawText.mk [0xFF] ++ ".html"⟩, rfl⟩, .empty⟩
    let page' : Draft := ⟨⟨⟨RawText.mk [0xFE] ++ ".html"⟩, rfl⟩, .empty⟩
    let destination (draft : Draft) :=
      (Stage.applyAll stages draft).map (·.path.path.components)
    (a.path.path.components.getLast? ≠ b.path.path.components.getLast? ∧
      destination a = .ok (Path.mk "migrations/19700101000000_").components ∧
      destination b = .ok (Path.mk "migrations/19700101000000_").components) ∧
    page.path.path.components ≠ page'.path.path.components ∧
      page.hasSuffix ".fizz" = false ∧ page'.hasSuffix ".fizz" = false ∧
      destination page = .ok (Path.mk "\uFFFD.plush.html").components ∧
      destination page' = .ok (Path.mk "\uFFFD.plush.html").components := by
  decide +kernel

end

end Recipe.Auth

end Scaffold
