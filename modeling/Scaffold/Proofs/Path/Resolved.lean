import Scaffold.Proofs.Path.Slash
/-!
# Resolved paths

Paths with `.` and `..` resolved by what is written alone. A `..` takes back the name before it, nothing
is above the root, and what a path without `..` adds to a directory lies inside that directory.
-/

namespace Scaffold.Path

open Text

def resolveStep (reached : List Component) : Component → List Component
  | .here => reached
  | .up =>
    match reached with
    | .name _ :: above => above
    | .root :: above => .root :: above
    | above => .up :: above
  | c => c :: reached

def resolve (components : List Component) : List Component :=
  (components.foldl resolveStep []).reverse

/-- A path inside a directory: resolved, it is that of the directory and some names. The directory
itself counts as inside. -/
def Inside (base path : Path) : Prop :=
  ∃ names : List RawText,
    resolve path.components = resolve base.components ++ names.map Component.name

theorem foldl_resolveStep {components : List Component} (h : .up ∉ components)
    (reached : List Component) :
    components.foldl resolveStep reached = (components.filter (· ≠ .here)).reverse ++ reached := by
  induction components generalizing reached with
  | nil => rfl
  | cons c components ih =>
      rw [List.mem_cons, not_or] at h
      rw [List.foldl_cons, ih h.2]
      cases c with
      | here => rfl
      | up => exact absurd rfl h.1
      | root => simp [resolveStep]
      | name text => simp [resolveStep]

theorem resolve_append {components : List Component} (h : .up ∉ components)
    (base : List Component) :
    resolve (base ++ components) = resolve base ++ components.filter (· ≠ .here) := by
  rw [resolve, List.foldl_append, foldl_resolveStep h, List.reverse_append, List.reverse_reverse]
  rfl

theorem resolve_concat_name (base : List Component) (raw : RawText) :
    resolve (base ++ [.name raw]) = resolve base ++ [.name raw] :=
  resolve_append (by simp) base

/-! ## Relative paths -/

theorem component?_ne_root {segment : List UInt8} : component? segment ≠ some .root := by
  unfold component?
  split
  · simp
  · split <;> simp

theorem root_notMem_components {p : Path} (h : p.isAbsolute = false) : .root ∉ p.components := by
  by_cases hpath : p.octets = []
  · rw [components_eq_nil_iff.mpr hpath]
    simp
  · obtain ⟨lead, rest, hsegments, hlead⟩ := exists_segments_of_relative h hpath
    rw [components_of_segments hsegments, List.mem_append, not_or]
    constructor
    · rw [leadComponents, if_neg hlead]
      split
      · simp
      · rw [Option.mem_toList]
        exact component?_ne_root
    · intro hmem
      obtain ⟨segment, -, hsegment⟩ := List.mem_filterMap.mp hmem
      exact component?_ne_root hsegment

theorem exists_names {components : List Component} (hroot : .root ∉ components)
    (hup : .up ∉ components) :
    ∃ names : List RawText, components.filter (· ≠ .here) = names.map Component.name := by
  induction components with
  | nil => exact ⟨[], rfl⟩
  | cons c components ih =>
      rw [List.mem_cons, not_or] at hroot hup
      obtain ⟨names, hnames⟩ := ih hroot.2 hup.2
      cases c with
      | here => exact ⟨names, by simpa using hnames⟩
      | up => exact absurd rfl hup.1
      | root => exact absurd rfl hroot.1
      | name text => exact ⟨text :: names, by simpa using hnames⟩

theorem mem_of_mem_within {root : Path} {components : List Component} {c : Component}
    (h : c ∈ within root components) : c ∈ components := by
  unfold within at h
  split at h
  · exact h
  · exact (List.mem_filter.mp h).1

/-- A path that nowhere goes up stays inside the directory it is joined to. -/
theorem inside_join {p : Path} (h : p.isAbsolute = false) (hup : .up ∉ p.components)
    (root : Path) : Inside root (root.join p) := by
  have hadded : .up ∉ within root p.components := fun hmem => hup (mem_of_mem_within hmem)
  have hrelative : .root ∉ within root p.components := fun hmem =>
    root_notMem_components h (mem_of_mem_within hmem)
  obtain ⟨names, hnames⟩ := exists_names hrelative hadded
  refine ⟨names, ?_⟩
  rw [components_join h, resolve_append hadded, hnames]

/-- A file in a directory is inside another directory if its own directory is, or if it is that
other directory. -/
theorem inside_iff_of_concat {base directory file : Path} {name : RawText}
    (h : resolve file.components = resolve directory.components ++ [.name name]) :
    Inside base file ↔
      Inside base directory ∨ resolve file.components = resolve base.components := by
  rw [Inside, Inside, h]
  constructor
  · rintro ⟨names, hnames⟩
    rcases List.eq_nil_or_concat names with rfl | ⟨init, last, rfl⟩
    · exact .inr (by simpa using hnames)
    · rw [List.concat_eq_append, List.map_append, List.map_singleton, ← List.append_assoc] at hnames
      exact .inl ⟨init, (List.append_singleton_inj.mp hnames).1⟩
  · rintro (⟨names, hnames⟩ | heq)
    · exact ⟨names ++ [name], by rw [hnames]; simp⟩
    · exact ⟨[], by rw [heq]; simp⟩

/-! ## Slashes at the end -/

theorem components_append_slashes {base : List UInt8} (hbase : base ≠ []) (count : Nat) :
    (Path.mk ⟨base ++ List.replicate count slash⟩).components = (Path.mk ⟨base⟩).components := by
  induction count with
  | zero => simp
  | succ count ih =>
      have hslash : base ++ List.replicate (count + 1) slash =
          base ++ List.replicate count slash ++ slash :: [] := by
        rw [List.replicate_succ', List.append_assoc]
      have hne : base ++ List.replicate count slash ≠ [] :=
        List.append_ne_nil_of_left_ne_nil hbase _
      rw [hslash, components_append_slash hne, ih]
      exact List.append_nil _

end Scaffold.Path
