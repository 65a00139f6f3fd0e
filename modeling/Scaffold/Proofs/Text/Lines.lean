import Scaffold.Text.Line
/-!
# Searching line by line

A text that has a newline nowhere but at its end is found in a whole text exactly when it is found
in one of its lines.
-/

namespace Scaffold.Text

theorem occursIn_iff {needle cs : List Char} : occursIn needle cs = true ↔ needle <:+: cs := by
  induction cs with
  | nil => simp [occursIn]
  | cons c cs ih =>
      rw [occursIn, Bool.or_eq_true, List.isPrefixOf_iff_prefix, ih, List.infix_cons_iff]

namespace Line

theorem split_cons_newline (cs : List Char) : split ('\n' :: cs) = ['\n'] :: split cs := by
  simp [split]

theorem split_cons_of_nil {c : Char} {cs : List Char} (hc : c ≠ '\n') (h : split cs = []) :
    split (c :: cs) = [[c]] := by
  rw [split, if_neg hc, h]

theorem split_cons_of_cons {c : Char} {cs line : List Char} {lines : List (List Char)}
    (hc : c ≠ '\n') (h : split cs = line :: lines) :
    split (c :: cs) = (c :: line) :: lines := by
  rw [split, if_neg hc, h]

theorem split_eq_nil_iff {cs : List Char} : split cs = [] ↔ cs = [] := by
  constructor
  · intro h
    rw [← flatten_split cs, h, List.flatten_nil]
  · rintro rfl
    rfl

/-- A text that is empty after its first newline begins a text exactly when it begins its first
line. -/
theorem prefix_iff_prefix_first {needle cs line : List Char} {lines : List (List Char)}
    (hneedle : '\n' ∉ needle.dropLast) (hsplit : split cs = line :: lines) :
    needle <+: cs ↔ needle <+: line := by
  induction cs generalizing needle line lines with
  | nil => cases hsplit
  | cons c cs ih =>
      cases needle with
      | nil => simp
      | cons n needle =>
          by_cases hc : c = '\n'
          · subst hc
            rw [split_cons_newline] at hsplit
            obtain ⟨rfl, -⟩ := List.cons.inj hsplit
            rw [List.cons_prefix_cons, List.cons_prefix_cons, List.prefix_nil]
            -- nothing of the needle is left after its newline
            cases needle with
            | nil => simp
            | cons next needle =>
                rw [List.dropLast_cons_cons, List.mem_cons, not_or] at hneedle
                simp [Ne.symm hneedle.1]
          · have hrest : '\n' ∉ needle.dropLast := by
              cases needle with
              | nil => simp
              | cons next needle =>
                  rw [List.dropLast_cons_cons, List.mem_cons, not_or] at hneedle
                  exact hneedle.2
            cases htail : split cs with
            | nil =>
                rw [split_cons_of_nil hc htail] at hsplit
                obtain ⟨rfl, -⟩ := List.cons.inj hsplit
                rw [split_eq_nil_iff.mp htail]
            | cons first others =>
                rw [split_cons_of_cons hc htail] at hsplit
                obtain ⟨rfl, -⟩ := List.cons.inj hsplit
                rw [List.cons_prefix_cons, List.cons_prefix_cons, ih hrest htail]

theorem infix_iff_exists_line {needle cs : List Char} (hne : needle ≠ [])
    (hneedle : '\n' ∉ needle.dropLast) :
    needle <:+: cs ↔ ∃ line ∈ split cs, needle <:+: line := by
  induction cs with
  | nil => simp [split, hne]
  | cons c cs ih =>
      obtain ⟨line, lines, hsplit⟩ := List.exists_cons_of_ne_nil
        (mt split_eq_nil_iff.mp (List.cons_ne_nil c cs))
      rw [List.infix_cons_iff, prefix_iff_prefix_first hneedle hsplit, ih]
      by_cases hc : c = '\n'
      · subst hc
        rw [split_cons_newline] at hsplit ⊢
        obtain ⟨rfl, rfl⟩ := List.cons.inj hsplit
        simp [List.infix_cons_iff, hne]
      · cases htail : split cs with
        | nil =>
            rw [split_cons_of_nil hc htail] at hsplit ⊢
            obtain ⟨rfl, rfl⟩ := List.cons.inj hsplit
            simp [List.infix_cons_iff, hne]
        | cons first others =>
            rw [split_cons_of_cons hc htail] at hsplit ⊢
            obtain ⟨rfl, rfl⟩ := List.cons.inj hsplit
            simp only [List.mem_cons, exists_eq_or_imp, List.infix_cons_iff, or_assoc]

theorem find?_isSome_iff {needle cs : List Char} :
    (find? needle cs).isSome ↔ ∃ line ∈ split cs, needle <:+: line := by
  simp only [find?, List.findIdx?_isSome, List.any_eq_true, occursIn_iff]

end Line

end Scaffold.Text
