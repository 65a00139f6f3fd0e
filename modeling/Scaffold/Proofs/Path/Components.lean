import Mathlib.Data.List.TakeWhile
import Scaffold.Proofs.Text.Encoding
/-!
# Paths as component lists

The components of a parent are all but the last one, only the empty path has none, and two paths
compare as equal exactly when their components agree.
-/

namespace Scaffold.Path

open Text

/-- The components that the first segment of a path stands for. -/
def leadComponents (lead : List UInt8) (rest : List (List UInt8)) : List Component :=
  if lead = [] then (if rest = [] then [] else [.root])
  else if lead = [dot] then [.here]
  else (component? lead).toList

theorem componentsOf_cons (lead : List UInt8) (rest : List (List UInt8)) :
    componentsOf (lead :: rest) = leadComponents lead rest ++ rest.filterMap component? := by
  by_cases hlead : lead = []
  · subst hlead
    cases rest with
    | nil => rfl
    | cons segment rest => simp [componentsOf, leadComponents]
  · rw [componentsOf]
    · simp only [leadComponents, if_neg hlead]
    · exact fun h => absurd h hlead
    · exact fun h => absurd h hlead

theorem component?_isSome {segment : List UInt8} (h : isIdle segment = false) :
    ∃ c, component? segment = some c := by
  simp only [isIdle, decide_eq_false_iff_not] at h
  rw [component?, if_neg h]
  split
  · exact ⟨_, rfl⟩
  · exact ⟨_, rfl⟩

theorem component?_eq_none {segment : List UInt8} (h : isIdle segment = true) :
    component? segment = none := by
  simp only [isIdle, decide_eq_true_eq] at h
  rw [component?, if_pos h]

theorem exists_leadComponents_eq_singleton {lead : List UInt8} (rest : List (List UInt8))
    (h : lead ≠ [] ∨ rest ≠ []) : ∃ c, leadComponents lead rest = [c] := by
  unfold leadComponents
  by_cases hlead : lead = []
  · rw [if_pos hlead, if_neg (h.resolve_left (not_not_intro hlead))]
    exact ⟨_, rfl⟩
  · rw [if_neg hlead]
    by_cases hhere : lead = [dot]
    · rw [if_pos hhere]
      exact ⟨_, rfl⟩
    · rw [if_neg hhere]
      have hbusy : isIdle lead = false := by simp [isIdle, hlead, hhere]
      obtain ⟨c, hc⟩ := component?_isSome hbusy
      exact ⟨c, by rw [hc, Option.toList_some]⟩

theorem segments_eq_nil_singleton {path : Path} (h : path.segments = [[]]) : path.octets = [] := by
  rw [segments] at h
  cases htext : path.octets with
  | nil => rfl
  | cons c cs =>
      rw [htext] at h
      by_cases hc : c = slash
      · subst hc
        rw [fields_cons_separator] at h
        exact absurd (List.cons.inj h).2 (fields_ne_nil cs)
      · obtain ⟨field, rest, hcs⟩ := exists_fields_eq_cons slash cs
        rw [fields_cons_of_ne hc hcs] at h
        simp at h

theorem components_eq_nil_iff {path : Path} : path.components = [] ↔ path.octets = [] := by
  constructor
  · intro h
    obtain ⟨lead, rest, hsegments⟩ := exists_fields_eq_cons slash path.octets
    apply segments_eq_nil_singleton
    rw [components, segments, hsegments, componentsOf_cons, List.append_eq_nil_iff] at h
    rw [segments, hsegments]
    by_cases hshort : lead ≠ [] ∨ rest ≠ []
    · obtain ⟨c, hc⟩ := exists_leadComponents_eq_singleton rest hshort
      rw [hc] at h
      simp at h
    · simp only [ne_eq, not_or, Decidable.not_not] at hshort
      rw [hshort.1, hshort.2]
  · intro h
    simp [components, segments, h, fields_nil, componentsOf]

/-! ## Parents -/

theorem dropIdle_append_lead (segments : List (List UInt8)) (lead : List UInt8) :
    dropIdle (segments ++ [lead]) = segments.dropWhile isIdle ++ [lead] := by
  induction segments with
  | nil => rfl
  | cons segment segments ih =>
      rw [List.cons_append, dropIdle, List.dropWhile_cons]
      · split
        · exact ih
        · rfl
      · simp

theorem filterMap_component?_of_isIdle {segments : List (List UInt8)}
    (h : ∀ segment ∈ segments, isIdle segment = true) : segments.filterMap component? = [] := by
  rw [List.filterMap_eq_nil_iff]
  exact fun segment hsegment => component?_eq_none (h segment hsegment)

theorem filterMap_component?_dropWhile (segments : List (List UInt8)) :
    (segments.dropWhile isIdle).filterMap component? = segments.filterMap component? := by
  have hidle : (segments.takeWhile isIdle).filterMap component? = [] :=
    filterMap_component?_of_isIdle fun segment h => List.mem_takeWhile_imp h
  calc
    (segments.dropWhile isIdle).filterMap component?
      = (segments.takeWhile isIdle ++ segments.dropWhile isIdle).filterMap component? := by
          rw [List.filterMap_append, hidle, List.nil_append]
    _ = segments.filterMap component? := by rw [List.takeWhile_append_dropWhile]

theorem leadComponents_congr {lead : List UInt8} {rest rest' : List (List UInt8)}
    (h : lead = [] → (rest = [] ↔ rest' = [])) :
    leadComponents lead rest = leadComponents lead rest' := by
  unfold leadComponents
  split
  · next hlead => simp only [h hlead]
  · rfl

theorem components_of_segments {path : Path} {lead : List UInt8} {rest : List (List UInt8)}
    (h : path.segments = lead :: rest) :
    path.components = leadComponents lead rest ++ rest.filterMap component? := by
  rw [components, h, componentsOf_cons]

/-- The path of some segments, read backwards, has the components of its segments; a first segment
without text stands for the root. -/
theorem components_ofReversed {lead : List UInt8} {segments : List (List UInt8)}
    (hlead : slash ∉ lead) (hsegments : ∀ segment ∈ segments, slash ∉ segment) :
    (ofReversed (segments ++ [lead])).components =
      leadComponents lead [[]] ++ segments.reverse.filterMap component? := by
  by_cases hroot : segments ++ [lead] = [[]]
  · have hnil : segments = [] ∧ lead = [] := by
      cases segments with
      | nil => simpa using hroot
      | cons segment segments => simp at hroot
    obtain ⟨rfl, rfl⟩ := hnil
    decide +kernel
  · have hslash : ∀ segment ∈ lead :: segments.reverse, slash ∉ segment := by
      intro segment h
      rcases List.mem_cons.mp h with rfl | h
      · exact hlead
      · exact hsegments segment (List.mem_reverse.mp h)
    have hpath : (ofReversed (segments ++ [lead])).segments = lead :: segments.reverse := by
      rw [ofReversed, if_neg hroot, Path.segments, Path.octets, List.reverse_append,
        List.reverse_singleton, List.singleton_append, fields_joinWith (by simp) hslash]
    rw [components_of_segments hpath]
    congr 1
    apply leadComponents_congr
    intro h
    subst h
    simpa using hroot

theorem parent?_of_segments {path : Path} {lead : List UInt8} {rest : List (List UInt8)}
    (h : path.segments = lead :: rest) :
    path.parent? =
      match rest.reverse.dropWhile isIdle with
      | [] => if lead = [] then none else some ⟨""⟩
      | _ :: init => some (ofReversed (init.dropWhile isIdle ++ [lead])) := by
  rw [parent?, h, List.reverse_cons, dropIdle_append_lead]
  cases hdrop : rest.reverse.dropWhile isIdle with
  | nil =>
      cases lead with
      | nil => rfl
      | cons c cs => rfl
  | cons segment init =>
      cases init with
      | nil => simp [dropIdle]
      | cons next init =>
          simp only [List.cons_append]
          rw [← List.cons_append, dropIdle_append_lead]

theorem filterMap_component?_reverse (segments : List (List UInt8)) :
    segments.filterMap component? =
      ((segments.reverse.dropWhile isIdle).filterMap component?).reverse := by
  rw [filterMap_component?_dropWhile, List.filterMap_reverse, List.reverse_reverse]

theorem components_dropLast_of_parent?_eq_none {path : Path} (h : path.parent? = none) :
    path.components.dropLast = [] := by
  obtain ⟨lead, rest, hsegments⟩ := exists_fields_eq_cons slash path.octets
  rw [parent?_of_segments hsegments] at h
  rw [components_of_segments hsegments, filterMap_component?_reverse]
  cases hdrop : rest.reverse.dropWhile isIdle with
  | nil =>
      rw [List.filterMap_nil, List.reverse_nil, List.append_nil]
      by_cases hshort : lead ≠ [] ∨ rest ≠ []
      · obtain ⟨c, hc⟩ := exists_leadComponents_eq_singleton rest hshort
        rw [hc, List.dropLast_singleton]
      · simp only [ne_eq, not_or, Decidable.not_not] at hshort
        rw [hshort.1, hshort.2]
        rfl
  | cons segment init =>
      rw [hdrop] at h
      cases h

theorem components_of_parent? {path parent : Path} (h : path.parent? = some parent) :
    parent.components = path.components.dropLast := by
  obtain ⟨lead, rest, hsegments⟩ := exists_fields_eq_cons slash path.octets
  have hslash : ∀ segment ∈ lead :: rest, slash ∉ segment := by
    intro segment hsegment
    rw [← hsegments] at hsegment
    exact separator_notMem_of_mem_fields hsegment
  rw [parent?_of_segments hsegments] at h
  rw [components_of_segments hsegments, filterMap_component?_reverse]
  cases hdrop : rest.reverse.dropWhile isIdle with
  | nil =>
      rw [hdrop] at h
      by_cases hlead : lead = []
      · simp [hlead] at h
      · simp only [if_neg hlead, Option.some.injEq] at h
        obtain ⟨c, hc⟩ := exists_leadComponents_eq_singleton rest (Or.inl hlead)
        rw [← h, components_eq_nil_iff.mpr rfl, hc]
        rfl
  | cons segment init =>
      simp only [hdrop, Option.some.injEq] at h
      -- the last segment that is not idle gives the last component
      have hlast : isIdle segment = false := by
        have hhead := List.head?_dropWhile_not isIdle rest.reverse
        simpa [hdrop] using hhead
      obtain ⟨c, hc⟩ := component?_isSome hlast
      have hinit : ∀ s ∈ init.dropWhile isIdle, slash ∉ s := by
        intro s hs
        have hmem : s ∈ rest.reverse.dropWhile isIdle := by
          rw [hdrop]
          exact List.mem_cons_of_mem _ ((List.dropWhile_sublist _).mem hs)
        have hrest := List.mem_reverse.mp ((List.dropWhile_sublist _).mem hmem)
        exact hslash s (List.mem_cons_of_mem _ hrest)
      have hrest : rest ≠ [] := by
        rintro rfl
        simp at hdrop
      rw [← h, components_ofReversed (hslash lead (List.mem_cons_self ..)) hinit,
        List.filterMap_cons_some hc, List.reverse_cons, ← List.append_assoc,
        List.dropLast_concat, List.filterMap_reverse, filterMap_component?_dropWhile]
      congr 1
      exact leadComponents_congr fun _ => by simp [hrest]

end Scaffold.Path
