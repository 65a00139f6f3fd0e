import Scaffold.Proofs.Stage
/-!
# Drafts at a target

A draft is at the texts that name its path: its slash form, behind any number of
`./`. A slash form that begins with `./` itself is named by no text, and a target with repeated
slashes, inner `.` segments or a slash at its end names no path. So two texts of one path need not
match, and an injection passes a draft through in silence whose path is its target spelt otherwise.
-/

namespace Scaffold

/-- What a relative path denotes: its components, the `.` it may begin with left out. -/
def RelativePath.denoted (p : RelativePath) : List Path.Component :=
  p.components.filter (· ≠ .here)

/-- A text that names a path: its slash form, which must not begin with `./`, behind any number of
`./`. -/
def RelativePath.NamedBy (p : RelativePath) (text : String) : Prop :=
  ¬ ['.', '/'] <+: p.toSlash.toList ∧
    ∃ count, text = String.join (List.replicate count "./") ++ p.toSlash

namespace Draft

theorem dropHere_of_not_prefix {text : List Char} (h : ¬ ['.', '/'] <+: text) :
    dropHere text = text := by
  unfold dropHere
  split
  · exact absurd (List.prefix_append ['.', '/'] _) h
  · rfl

theorem dropHere_replicate_append (count : Nat) (text : List Char) :
    dropHere ((List.replicate count ['.', '/']).flatten ++ text) = dropHere text := by
  induction count with
  | zero => rfl
  | succ count ih => simpa [List.replicate_succ, dropHere] using ih

theorem not_prefix_dropHere (text : List Char) : ¬ ['.', '/'] <+: dropHere text := by
  fun_induction dropHere text with
  | case1 rest ih => exact ih
  | case2 text hother =>
      rintro ⟨rest, rfl⟩
      exact hother rest rfl

theorem exists_eq_append_dropHere (text : List Char) :
    ∃ count, text = (List.replicate count ['.', '/']).flatten ++ dropHere text := by
  fun_induction dropHere text with
  | case1 rest ih =>
      obtain ⟨count, hcount⟩ := ih
      refine ⟨count + 1, ?_⟩
      rw [List.replicate_succ, List.flatten_cons, List.append_assoc, ← hcount]
      rfl
  | case2 text => exact ⟨0, rfl⟩

theorem eq_dropHere_iff {text rest : List Char} :
    rest = dropHere text ↔
      ¬ ['.', '/'] <+: rest ∧
        ∃ count, text = (List.replicate count ['.', '/']).flatten ++ rest := by
  constructor
  · rintro rfl
    exact ⟨not_prefix_dropHere text, exists_eq_append_dropHere text⟩
  · rintro ⟨hrest, count, rfl⟩
    rw [dropHere_replicate_append, dropHere_of_not_prefix hrest]

/-- A draft is at exactly the texts that name its path. -/
theorem isAt_iff {draft : Draft} {text : String} :
    draft.isAt text = true ↔ draft.path.NamedBy text := by
  have hheres (count : Nat) :
      (String.join (List.replicate count "./")).toList =
        (List.replicate count ['.', '/']).flatten := by
    rw [String.toList_join, List.flatMap_def, List.map_replicate]
    rfl
  rw [isAt, decide_eq_true_eq, eq_dropHere_iff, RelativePath.NamedBy]
  simp only [← String.toList_inj, String.toList_append, hheres]

end Draft

namespace RelativePath

open Scaffold.Path

variable {p q : RelativePath}

theorem filterMap_segments (p : RelativePath) :
    p.path.segments.filterMap component? = p.denoted :=
  filterMap_component?_segments p.not_absolute

theorem filterMap_segments_heres (count : Nat) (text : String) :
    (Path.mk (String.join (List.replicate count "./") ++ text : String)).segments.filterMap
        component? =
      (Path.mk text).segments.filterMap component? := by
  induction count with
  | zero => rw [List.replicate_zero, String.join_nil, String.empty_append]
  | succ count ih =>
      let rest := String.join (List.replicate count "./") ++ text
      have hslash : Path.mk (String.join (List.replicate (count + 1) "./") ++ text : String) =
          ⟨⟨[dot] ++ slash :: (RawText.ofString rest).octets⟩⟩ := by
        rw [List.replicate_succ, String.join_cons, String.append_assoc, RawText.ofString_append]
        rfl
      have hhere : (Path.mk ⟨[dot]⟩).segments.filterMap component? = [] := by decide
      rw [hslash, segments_append_slash, List.filterMap_append, hhere, List.nil_append]
      exact ih

theorem NamedBy.denoted_eq (h : p.NamedBy q.text) (hp : p.path.IsText) (hq : q.path.IsText) :
    p.denoted = q.denoted := by
  obtain ⟨-, count, hcount⟩ := h
  let slash : RelativePath := ⟨⟨p.toSlash⟩, isAbsolute_toSlash p.not_absolute⟩
  have hslash : slash.denoted = p.denoted := by
    have hcomponents : slash.components = p.components :=
      (components_toSlash p.not_absolute).trans hp.map_lossy
    rw [denoted, denoted, hcomponents]
  have hq : Path.mk (String.join (List.replicate count "./") ++ p.toSlash : String) = q.path := by
    rw [← hcount]
    exact hq.eq_ofString.symm
  rw [← filterMap_segments q, ← hq, filterMap_segments_heres, ← hslash, ← filterMap_segments slash]

end RelativePath

namespace Stage

/-- A draft is at a target exactly when the target names its path, which for paths that are texts is
more than to denote it. Then an injection puts its rows into the draft, or fails for want of the marker. Otherwise it passes
the draft through, whether or not the draft's path and the target denote the same file. -/
theorem injection_meets_named_targets (p q : RelativePath) (content : ByteArray)
    (marker : String) (rows : List String) :
    let draft : Draft := ⟨p, content⟩
    let stage := injection q.text marker rows
    (draft.isAt q.text = true ↔ p.NamedBy q.text) ∧
    (p.NamedBy q.text → p.path.IsText → q.path.IsText → p.denoted = q.denoted) ∧
    (p.NamedBy q.text →
      stage.apply draft = .error (.markerNotFound p.toSlash marker) ∨
        ∃ text result : String, content = text.toUTF8 ∧
          insertRows? marker rows text = some result ∧
          stage.apply draft = .ok ⟨p, result.toUTF8⟩) ∧
    (¬ p.NamedBy q.text → stage.apply draft = .ok draft) := by
  intro draft stage
  have hat : draft.isAt q.text = true ↔ p.NamedBy q.text := Draft.isAt_iff
  refine ⟨hat, RelativePath.NamedBy.denoted_eq, fun hnamed => ?_, fun hother => ?_⟩
  · cases hbind : draft.text?.bind (insertRows? marker rows) with
    | none => exact .inl (inject_of_none (hat.mpr hnamed) hbind)
    | some result =>
        obtain ⟨text, htext, hrows⟩ := Option.bind_eq_some_iff.mp hbind
        exact .inr ⟨text, result, Draft.text?_eq_some_iff.mp htext, hrows,
          inject_of_text (hat.mpr hnamed) htext hrows⟩
  · exact inject_of_isAt_false (Bool.eq_false_iff.mpr (mt hat.mp hother)) marker rows

/-- A draft below `./` is not at its own path, nor is one at a path whose slashes the target
repeats: both keep their text, though it holds the marker. -/
theorem injection_passes_over_its_target :
    let below : RelativePath := ⟨⟨"./form"⟩, rfl⟩
    let inside : RelativePath := ⟨⟨"users/form"⟩, rfl⟩
    let repeated : RelativePath := ⟨⟨"users//form"⟩, rfl⟩
    let content := "marker\n".toUTF8
    inside.denoted = repeated.denoted ∧
      (⟨below, content⟩ : Draft).isAt below.text = false ∧
      (⟨inside, content⟩ : Draft).isAt repeated.text = false ∧
      (injection below.text "marker" ["row"]).apply ⟨below, content⟩ = .ok ⟨below, content⟩ ∧
      (injection repeated.text "marker" ["row"]).apply ⟨inside, content⟩ =
        .ok ⟨inside, content⟩ := by
  intro below inside repeated content
  have hbelow : (⟨below, content⟩ : Draft).isAt below.text = false := by decide
  have hinside : (⟨inside, content⟩ : Draft).isAt repeated.text = false := by decide
  exact ⟨by decide, hbelow, hinside, inject_of_isAt_false hbelow _ _,
    inject_of_isAt_false hinside _ _⟩

end Stage

end Scaffold
