import Mathlib.Data.List.DropRight
import Scaffold.Text.Blank
/-!
# Trimmed texts

Trimming leaves what stands between two texts of a class, which has no character of the class at
either end; a text of that kind is left as it is.
-/

namespace Scaffold.Text

/-- A text that has no character of a class at either end. -/
def IsTrimmed (p : Char → Bool) (cs : List Char) : Prop :=
  (∀ c ∈ cs.head?, p c = false) ∧ ∀ c ∈ cs.getLast?, p c = false

section

variable {p : Char → Bool} {cs core trail : List Char}

theorem isTrimmed_of_forall (h : ∀ c ∈ cs, p c = false) : IsTrimmed p cs :=
  ⟨fun c hc => h c (List.mem_of_head? hc), fun c hc => h c (List.mem_of_getLast? hc)⟩

/-- Only the outer ends of two texts matter to what they enclose. -/
theorem IsTrimmed.enclose {front back : List Char} (hfront : IsTrimmed p front)
    (hback : IsTrimmed p back) (hne : front ≠ []) (hne' : back ≠ []) (between : List Char) :
    IsTrimmed p (front ++ between ++ back) := by
  refine ⟨fun c hc => hfront.1 c ?_, fun c hc => hback.2 c ?_⟩
  · rwa [List.append_assoc, List.head?_append_of_ne_nil _ hne] at hc
  · rwa [List.getLast?_append_of_ne_nil _ hne'] at hc

theorem isTrimmed_trimWhile (p : Char → Bool) (cs : List Char) : IsTrimmed p (trimWhile p cs) := by
  have hprefix : trimWhile p cs <+: cs.dropWhile p := List.rdropWhile_prefix p _
  constructor
  · intro c hc
    obtain ⟨rest, hrest⟩ := List.head?_eq_some_iff.mp hc
    rw [hrest] at hprefix
    obtain ⟨more, hmore⟩ := hprefix
    have hhead := List.head?_dropWhile_not p cs
    rw [← hmore] at hhead
    simpa using hhead
  · intro c hc
    have hne : trimWhile p cs ≠ [] := by
      intro hnil
      rw [hnil] at hc
      cases hc
    have hlast := List.rdropWhile_last_not p (cs.dropWhile p) hne
    rw [List.getLast?_eq_getLast_of_ne_nil hne, Option.mem_some_iff] at hc
    rw [Bool.eq_false_iff, ← hc]
    exact hlast

theorem trimWhile_eq_iff :
    trimWhile p cs = core ↔
      ∃ lead trail, cs = lead ++ core ++ trail ∧ (∀ c ∈ lead, p c = true) ∧
        (∀ c ∈ trail, p c = true) ∧ IsTrimmed p core := by
  constructor
  · rintro rfl
    refine ⟨cs.takeWhile p, (cs.dropWhile p).rtakeWhile p, ?_,
      fun c hc => List.mem_takeWhile_imp hc, fun c hc => List.mem_rtakeWhile_imp hc,
      isTrimmed_trimWhile p cs⟩
    calc
      cs = cs.takeWhile p ++ cs.dropWhile p := List.takeWhile_append_dropWhile.symm
      _ = cs.takeWhile p ++ (trimWhile p cs ++ (cs.dropWhile p).rtakeWhile p) :=
        congrArg _ List.rdropWhile_append_rtakeWhile.symm
      _ = _ := (List.append_assoc _ _ _).symm
  · rintro ⟨lead, trail, rfl, hlead, htrail, hhead, hlast⟩
    rw [trimWhile, List.append_assoc, List.dropWhile_append_of_pos hlead]
    cases core with
    | nil =>
        have hnil : trail.dropWhile p = [] := List.dropWhile_eq_nil_iff.mpr htrail
        rw [List.nil_append, hnil]
        rfl
    | cons c core =>
        have hfront : (c :: core ++ trail).dropWhile p = c :: core ++ trail := by
          rw [List.cons_append, List.dropWhile_cons, hhead c rfl]
          rfl
        have hback : (c :: core).rdropWhile p = c :: core :=
          List.rdropWhile_eq_self_iff.mpr fun hne => by
            simp [hlast _ (List.getLast?_eq_getLast_of_ne_nil hne)]
        rw [hfront, dropEndWhile, List.reverse_append,
          List.dropWhile_append_of_pos fun c hc => htrail c (List.mem_reverse.mp hc)]
        exact hback

theorem exists_eq_append_trimWhile (p : Char → Bool) (cs : List Char) :
    ∃ lead trail, cs = lead ++ trimWhile p cs ++ trail ∧ (∀ c ∈ lead, p c = true) ∧
      ∀ c ∈ trail, p c = true := by
  obtain ⟨lead, trail, hcs, hlead, htrail, -⟩ := trimWhile_eq_iff.mp (Eq.refl (trimWhile p cs))
  exact ⟨lead, trail, hcs, hlead, htrail⟩

theorem trimWhile_eq_self_iff : trimWhile p cs = cs ↔ IsTrimmed p cs := by
  constructor
  · intro h
    rw [← h]
    exact isTrimmed_trimWhile p cs
  · intro h
    exact trimWhile_eq_iff.mpr ⟨[], [], by simp, by simp, by simp, h⟩

theorem trimWhile_append (h : ∀ c ∈ trail, p c = true) (cs : List Char) :
    trimWhile p (cs ++ trail) = trimWhile p cs := by
  obtain ⟨lead, between, hcs, hlead, hbetween⟩ := exists_eq_append_trimWhile p cs
  refine trimWhile_eq_iff.mpr
    ⟨lead, between ++ trail, ?_, hlead, ?_, isTrimmed_trimWhile p cs⟩
  · rw [← List.append_assoc, ← hcs]
  · exact fun c hc => (List.mem_append.mp hc).elim (hbetween c) (h c)

end

theorem mem_of_mem_trim {c : Char} {cs : List Char} (h : c ∈ trim cs) : c ∈ cs := by
  obtain ⟨lead, trail, hcs, -⟩ := exists_eq_append_trimWhile isBlank cs
  rw [hcs]
  exact List.mem_append_left _ (List.mem_append_right _ h)

theorem trim_trim (cs : List Char) : trim (trim cs) = trim cs :=
  trimWhile_eq_self_iff.mpr (isTrimmed_trimWhile isBlank cs)

end Scaffold.Text
