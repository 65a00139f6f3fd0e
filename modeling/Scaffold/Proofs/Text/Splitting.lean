import Scaffold.Proofs.Text.Lines
/-!
# Splitting a text into lines

How a text falls into lines. The lines of a text are the only ones that make it up, what stands
before one of them is split apart from it, and a search ends at the first line that holds what is
looked for.
-/

namespace Scaffold.Text.Line

/-! ## Splitting what is put together -/

/-- A text that is empty or ends with a newline is split apart from what follows it. -/
theorem split_append {as : List Char} (h : ∀ c ∈ as.getLast?, c = '\n') (bs : List Char) :
    split (as ++ bs) = split as ++ split bs := by
  induction as with
  | nil => rfl
  | cons a as ih =>
      by_cases ha : a = '\n'
      · subst ha
        have hrest : ∀ c ∈ as.getLast?, c = '\n' := by
          cases as with
          | nil => simp
          | cons b as => simpa using h
        rw [List.cons_append, split_cons_newline, split_cons_newline, ih hrest, List.cons_append]
      · cases as with
        | nil => exact absurd (h a (by simp)) ha
        | cons b as =>
            have hrest := ih (by simpa using h)
            obtain ⟨line, lines, hsplit⟩ := List.exists_cons_of_ne_nil
              (mt split_eq_nil_iff.mp (List.cons_ne_nil b as))
            rw [hsplit, List.cons_append] at hrest
            rw [split_cons_of_cons ha hsplit, List.cons_append, List.cons_append]
            exact split_cons_of_cons ha hrest

theorem split_of_notMem {cs : List Char} (hne : cs ≠ []) (h : '\n' ∉ cs) : split cs = [cs] := by
  induction cs with
  | nil => exact absurd rfl hne
  | cons c cs ih =>
      rw [List.mem_cons, not_or] at h
      cases cs with
      | nil => exact split_cons_of_nil (Ne.symm h.1) rfl
      | cons d cs => exact split_cons_of_cons (Ne.symm h.1) (ih (List.cons_ne_nil d cs) h.2)

theorem split_concat_newline {cs : List Char} (h : '\n' ∉ cs) :
    split (cs ++ ['\n']) = [cs ++ ['\n']] := by
  induction cs with
  | nil => rfl
  | cons c cs ih =>
      rw [List.mem_cons, not_or] at h
      exact split_cons_of_cons (Ne.symm h.1) (ih h.2)

theorem newline_notMem_of_dropLast {line : List Char} (hinit : '\n' ∉ line.dropLast)
    (hend : line.getLast? ≠ some '\n') : '\n' ∉ line := by
  rcases List.eq_nil_or_concat line with rfl | ⟨init, last, rfl⟩
  · simp
  · rw [List.concat_eq_append, List.dropLast_concat] at hinit
    have hlast : last ≠ '\n' := by simpa using hend
    simp [hinit, Ne.symm hlast]

theorem length_split {cs : List Char} (h : ∀ c ∈ cs.getLast?, c = '\n') :
    (split cs).length = cs.count '\n' := by
  induction cs with
  | nil => rfl
  | cons c cs ih =>
      cases cs with
      | nil =>
          obtain rfl := h c (by simp)
          rfl
      | cons d cs =>
          have hrest := ih (by simpa using h)
          by_cases hc : c = '\n'
          · subst hc
            rw [split_cons_newline, List.length_cons, List.count_cons_self, hrest]
          · -- the character joins the first line
            obtain ⟨line, lines, hsplit⟩ := List.exists_cons_of_ne_nil
              (mt split_eq_nil_iff.mp (List.cons_ne_nil d cs))
            rw [hsplit] at hrest
            rw [split_cons_of_cons hc hsplit, List.count_cons_of_ne hc, ← hrest]
            rfl

/-! ## What lines look like -/

/-- The lines of a text: none is empty, none has a newline but at its end, and only the last one
may lack it. -/
structure Lines (lines : List (List Char)) : Prop where
  ne_nil : ∀ line ∈ lines, line ≠ []
  newline_notMem : ∀ line ∈ lines, '\n' ∉ line.dropLast
  terminated : ∀ line ∈ lines.dropLast, line.getLast? = some '\n'

theorem lines_split (cs : List Char) : Lines (split cs) := by
  induction cs with
  | nil => constructor <;> simp [split]
  | cons c cs ih =>
      by_cases hc : c = '\n'
      · subst hc
        rw [split_cons_newline]
        constructor
        · simpa using ih.ne_nil
        · simpa using ih.newline_notMem
        · cases hsplit : split cs with
          | nil => simp
          | cons line lines =>
              have hterminated := ih.terminated
              rw [hsplit] at hterminated
              simpa using hterminated
      · cases hsplit : split cs with
        | nil =>
            rw [split_cons_of_nil hc hsplit]
            constructor <;> simp
        | cons line lines =>
            -- the character joins the first line, which keeps its end
            rw [hsplit] at ih
            rw [split_cons_of_cons hc hsplit]
            have hline := ih.ne_nil line List.mem_cons_self
            obtain ⟨first, rest, rfl⟩ := List.exists_cons_of_ne_nil hline
            constructor
            · intro other hother
              rcases List.mem_cons.mp hother with rfl | hother
              · exact List.cons_ne_nil _ _
              · exact ih.ne_nil other (List.mem_cons_of_mem _ hother)
            · intro other hother
              rcases List.mem_cons.mp hother with rfl | hother
              · have hfirst := ih.newline_notMem _ List.mem_cons_self
                simp [Ne.symm hc, hfirst]
              · exact ih.newline_notMem other (List.mem_cons_of_mem _ hother)
            · intro other hother
              cases lines with
              | nil => simp at hother
              | cons next lines =>
                  rw [List.dropLast_cons_cons, List.mem_cons] at hother
                  rcases hother with rfl | hother
                  · have hfirst := ih.terminated (first :: rest) (by simp)
                    simpa using hfirst
                  · exact ih.terminated other (by simp [hother])

theorem Lines.of_cons {line : List Char} {lines : List (List Char)} (h : Lines (line :: lines)) :
    Lines lines where
  ne_nil := fun other hother => h.ne_nil other (List.mem_cons_of_mem _ hother)
  newline_notMem := fun other hother => h.newline_notMem other (List.mem_cons_of_mem _ hother)
  terminated := fun other hother => by
    cases lines with
    | nil => simp at hother
    | cons next lines => exact h.terminated other (List.mem_cons_of_mem _ hother)

/-- Lines are given back by splitting what they make up. -/
theorem Lines.split_flatten {lines : List (List Char)} (h : Lines lines) :
    split lines.flatten = lines := by
  induction lines with
  | nil => rfl
  | cons line lines ih =>
      have hinit := h.newline_notMem line List.mem_cons_self
      have hrest := ih h.of_cons
      by_cases hend : line.getLast? = some '\n'
      · obtain ⟨init, rfl⟩ := List.getLast?_eq_some_iff.mp hend
        rw [List.dropLast_concat] at hinit
        rw [List.flatten_cons, split_append (by simp), split_concat_newline hinit, hrest,
          List.singleton_append]
      · -- only the last line may lack its newline
        cases lines with
        | cons next lines => exact absurd (h.terminated line (by simp)) hend
        | nil =>
            have hne := h.ne_nil line List.mem_cons_self
            simpa using split_of_notMem hne (newline_notMem_of_dropLast hinit hend)

theorem exists_split_of_getElem? {cs line : List Char} {index : Nat}
    (h : (split cs)[index]? = some line) :
    ∃ earlier later, split cs = earlier ++ line :: later ∧ earlier.length = index := by
  obtain ⟨hindex, rfl⟩ := List.getElem?_eq_some_iff.mp h
  refine ⟨(split cs).take index, (split cs).drop (index + 1), ?_, ?_⟩
  · rw [List.getElem_cons_drop, List.take_append_drop]
  · rw [List.length_take]
    omega

section Around

variable {cs line : List Char} {earlier later : List (List Char)}

theorem eq_flatten_of_split (h : split cs = earlier ++ line :: later) :
    cs = earlier.flatten ++ line ++ later.flatten := by
  rw [← flatten_split cs, h]
  simp

theorem terminated_of_mem_earlier (h : split cs = earlier ++ line :: later) {other : List Char}
    (hother : other ∈ earlier) : other.getLast? = some '\n' := by
  refine (lines_split cs).terminated other ?_
  rw [h, List.dropLast_append_cons]
  exact List.mem_append_left _ hother

theorem lines_earlier (h : split cs = earlier ++ line :: later) : Lines earlier where
  ne_nil := fun other hother => (lines_split cs).ne_nil other (by simp [h, hother])
  newline_notMem := fun other hother => (lines_split cs).newline_notMem other (by simp [h, hother])
  terminated := fun _ hother => terminated_of_mem_earlier h (List.dropLast_subset _ hother)

theorem getLast?_flatten_earlier (h : split cs = earlier ++ line :: later) :
    ∀ c ∈ earlier.flatten.getLast?, c = '\n' := by
  rcases List.eq_nil_or_concat earlier with rfl | ⟨init, last, rfl⟩
  · simp
  · have hlast : last.getLast? = some '\n' := terminated_of_mem_earlier h (by simp)
    simp [List.getLast?_append, hlast]

theorem split_flatten_earlier_append (h : split cs = earlier ++ line :: later) (bs : List Char) :
    split (earlier.flatten ++ bs) = earlier ++ split bs := by
  rw [split_append (getLast?_flatten_earlier h), (lines_earlier h).split_flatten]

theorem later_eq_nil (h : split cs = earlier ++ line :: later) (hline : line.getLast? ≠ some '\n') :
    later = [] := by
  cases later with
  | nil => rfl
  | cons next later =>
      refine absurd ((lines_split cs).terminated line ?_) hline
      simp [h]

theorem newline_notMem_of_unterminated (h : split cs = earlier ++ line :: later)
    (hline : line.getLast? ≠ some '\n') : '\n' ∉ line :=
  newline_notMem_of_dropLast ((lines_split cs).newline_notMem line (by simp [h])) hline

end Around

/-! ## Searching -/

theorem find?_eq_some_iff {needle cs : List Char} {index : Nat} :
    find? needle cs = some index ↔
      ∃ earlier line later, split cs = earlier ++ line :: later ∧ earlier.length = index ∧
        needle <:+: line ∧ ∀ other ∈ earlier, ¬ needle <:+: other := by
  rw [find?, List.findIdx?_eq_some_iff_getElem]
  constructor
  · rintro ⟨hindex, hfound, hearlier⟩
    have hline := List.getElem?_eq_getElem hindex
    generalize (split cs)[index] = line at hfound hline
    obtain ⟨earlier, later, h, rfl⟩ := exists_split_of_getElem? hline
    refine ⟨earlier, line, later, h, rfl, occursIn_iff.mp hfound, ?_⟩
    intro other hother hinfix
    obtain ⟨j, hj, rfl⟩ := List.getElem_of_mem hother
    refine hearlier j hj ?_
    simpa [h, List.getElem_append_left hj] using occursIn_iff.mpr hinfix
  · rintro ⟨earlier, line, later, h, rfl, hfound, hearlier⟩
    refine ⟨by simp [h], ?_, ?_⟩
    · simpa [h] using occursIn_iff.mpr hfound
    · intro j hj hoccurs
      refine hearlier earlier[j] (List.getElem_mem hj) (occursIn_iff.mp ?_)
      simpa [h, List.getElem_append_left hj] using hoccurs

theorem find?_eq_none_iff {needle cs : List Char} :
    find? needle cs = none ↔ ∀ line ∈ split cs, ¬ needle <:+: line := by
  rw [← Option.not_isSome_iff_eq_none, find?_isSome_iff]
  simp

end Scaffold.Text.Line
