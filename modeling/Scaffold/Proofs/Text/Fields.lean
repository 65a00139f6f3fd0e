import Scaffold.Text.Find
/-!
# Fields of a text

Fields of a text and their joining. A text is cut at every separator, so no field holds one, and
fields that hold none are given back by joining and cutting again. What is found at an end of a text
is cut off it and nothing else.
-/

namespace Scaffold.Text

variable {α : Type} [DecidableEq α] {separator : α}

theorem fields_nil : fields separator ([] : List α) = [[]] := rfl

theorem fields_cons_separator (cs : List α) :
    fields separator (separator :: cs) = [] :: fields separator cs := by
  simp [fields, fieldsBy]

theorem fields_ne_nil (cs : List α) : fields separator cs ≠ [] := by
  induction cs with
  | nil => simp [fields_nil]
  | cons c cs ih =>
      unfold fields at ih ⊢
      rw [fieldsBy]
      split
      · simp
      · simp
      · simp

theorem fields_cons_of_ne {c : α} {cs field : List α} {rest : List (List α)}
    (hc : c ≠ separator) (h : fields separator cs = field :: rest) :
    fields separator (c :: cs) = (c :: field) :: rest := by
  unfold fields at h ⊢
  rw [fieldsBy, h]
  simp [hc]

theorem exists_fields_eq_cons (separator : α) (cs : List α) :
    ∃ field rest, fields separator cs = field :: rest :=
  List.exists_cons_of_ne_nil (fields_ne_nil cs)

theorem separator_notMem_of_mem_fields {cs field : List α}
    (h : field ∈ fields separator cs) : separator ∉ field := by
  induction cs generalizing field with
  | nil =>
      simp only [fields_nil, List.mem_singleton] at h
      simp [h]
  | cons c cs ih =>
      by_cases hc : c = separator
      · subst hc
        rw [fields_cons_separator, List.mem_cons] at h
        rcases h with rfl | h
        · simp
        · exact ih h
      · obtain ⟨first, rest, hcs⟩ := exists_fields_eq_cons separator cs
        rw [fields_cons_of_ne hc hcs, List.mem_cons] at h
        rw [hcs] at ih
        rcases h with rfl | h
        · have hfirst := ih (List.mem_cons_self ..)
          simp [Ne.symm hc, hfirst]
        · exact ih (List.mem_cons_of_mem _ h)

theorem fields_append_of_notMem {as bs field : List α} {rest : List (List α)}
    (has : separator ∉ as) (h : fields separator bs = field :: rest) :
    fields separator (as ++ bs) = (as ++ field) :: rest := by
  induction as with
  | nil => exact h
  | cons a as ih =>
      rw [List.mem_cons, not_or] at has
      exact fields_cons_of_ne (Ne.symm has.1) (ih has.2)

theorem fields_of_notMem {cs : List α} (h : separator ∉ cs) : fields separator cs = [cs] := by
  induction cs with
  | nil => rfl
  | cons c cs ih =>
      rw [List.mem_cons, not_or] at h
      exact fields_cons_of_ne (Ne.symm h.1) (ih h.2)

theorem fields_append_separator (as bs : List α) :
    fields separator (as ++ separator :: bs) = fields separator as ++ fields separator bs := by
  induction as with
  | nil => exact fields_cons_separator bs
  | cons a as ih =>
      by_cases ha : a = separator
      · subst ha
        simp only [List.cons_append, fields_cons_separator, ih]
      · obtain ⟨first, rest, has⟩ := exists_fields_eq_cons separator as
        rw [has, List.cons_append] at ih
        rw [List.cons_append, fields_cons_of_ne ha ih, fields_cons_of_ne ha has, List.cons_append]

theorem fields_joinWith {parts : List (List α)} (hne : parts ≠ [])
    (h : ∀ part ∈ parts, separator ∉ part) :
    fields separator (joinWith [separator] parts) = parts := by
  induction parts with
  | nil => exact absurd rfl hne
  | cons part parts ih =>
      have hpart := fields_of_notMem (h part (List.mem_cons_self ..))
      cases parts with
      | nil => exact hpart
      | cons next parts =>
          have hrest := ih (by simp) fun p hp => h p (List.mem_cons_of_mem _ hp)
          rw [joinWith, List.append_assoc, List.singleton_append, fields_append_separator,
            hpart, hrest, List.singleton_append]
          simp

theorem fieldsBy_congr {α : Type} {p q : α → Bool} {cs : List α} (h : ∀ c ∈ cs, p c = q c) :
    fieldsBy p cs = fieldsBy q cs := by
  induction cs with
  | nil => rfl
  | cons c cs ih =>
      obtain ⟨hc, hcs⟩ := List.forall_mem_cons.mp h
      rw [fieldsBy, fieldsBy, hc, ih hcs]

theorem eq_takeWhile_append_separator {cs : List α} (h : separator ∈ cs) :
    cs = cs.takeWhile (· ≠ separator) ++ separator :: (cs.dropWhile (· ≠ separator)).tail := by
  induction cs with
  | nil => cases h
  | cons c cs ih =>
      by_cases hc : c = separator
      · simp [hc]
      · have hcs : separator ∈ cs := (List.mem_cons.mp h).resolve_left (Ne.symm hc)
        simpa [hc] using ih hcs

theorem separator_notMem_takeWhile (separator : α) (cs : List α) :
    separator ∉ cs.takeWhile (· ≠ separator) := by
  intro h
  simpa using List.all_eq_true.mp List.all_takeWhile _ h

/-- A text without separators only makes the last field longer. -/
theorem exists_fields_append (separator : α) (as : List α) :
    ∃ init last, fields separator as = init ++ [last] ∧
      ∀ bs, separator ∉ bs → fields separator (as ++ bs) = init ++ [last ++ bs] := by
  induction as with
  | nil => exact ⟨[], [], rfl, fun bs hbs => fields_of_notMem hbs⟩
  | cons a as ih =>
      obtain ⟨init, last, has, happend⟩ := ih
      by_cases ha : a = separator
      · subst ha
        refine ⟨[] :: init, last, by rw [fields_cons_separator, has]; rfl, fun bs hbs => ?_⟩
        rw [List.cons_append, fields_cons_separator, happend bs hbs]
        rfl
      · cases init with
        | nil =>
            exact ⟨[], a :: last, fields_cons_of_ne ha has, fun bs hbs =>
              fields_cons_of_ne ha (happend bs hbs)⟩
        | cons first init =>
            exact ⟨(a :: first) :: init, last, fields_cons_of_ne ha has, fun bs hbs =>
              fields_cons_of_ne ha (happend bs hbs)⟩

/-! ## Ends of a text -/

theorem afterPrefix?_eq_some_iff {start cs rest : List Char} :
    afterPrefix? start cs = some rest ↔ cs = start ++ rest := by
  induction start generalizing cs with
  | nil => simp [afterPrefix?]
  | cons s start ih =>
      cases cs with
      | nil => simp [afterPrefix?]
      | cons c cs =>
          rw [afterPrefix?, List.cons_append, List.cons.injEq]
          split
          · next heq => rw [ih, and_iff_right heq.symm]
          · next hne => simp [Ne.symm hne]

theorem beforeSuffix?_eq_some_iff {ending cs stem : List Char} :
    beforeSuffix? ending cs = some stem ↔ cs = stem ++ ending := by
  rw [beforeSuffix?, Option.map_eq_some_iff]
  constructor
  · rintro ⟨rest, h, rfl⟩
    rw [afterPrefix?_eq_some_iff] at h
    rw [← List.reverse_reverse cs, h, List.reverse_append, List.reverse_reverse]
  · rintro rfl
    exact ⟨stem.reverse, afterPrefix?_eq_some_iff.mpr (List.reverse_append ..),
      List.reverse_reverse stem⟩

theorem joinWith_eq_intercalate {α : Type} (separator : List α) (parts : List (List α)) :
    joinWith separator parts = separator.intercalate parts := by
  induction parts with
  | nil => rfl
  | cons part parts ih =>
      cases parts with
      | nil => simp [joinWith]
      | cons next parts =>
          rw [joinWith, ih]
          · simp
          · simp

end Scaffold.Text
