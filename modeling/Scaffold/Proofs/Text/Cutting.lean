import Scaffold.Proofs.Text.Fields
import Scaffold.Proofs.Text.Insertion
/-!
# Cutting texts

Cutting a text where another one occurs in it first.
-/

namespace Scaffold.Text

/-- A text that ends in characters foreign to what is searched holds it before them. -/
theorem infix_of_infix_append_left {needle as bs : List Char} (hne : needle ≠ [])
    (h : ∀ c ∈ bs, c ∉ needle) (hfound : needle <:+: as ++ bs) : needle <:+: as := by
  cases bs with
  | nil => rwa [List.append_nil] at hfound
  | cons b bs =>
      obtain ⟨hb, hbs⟩ := List.forall_mem_cons.mp h
      rcases (infix_append_cons_iff hb).mp hfound with hleft | hright
      · exact hleft
      · obtain ⟨c, rest, rfl⟩ := List.exists_cons_of_ne_nil hne
        exact absurd List.mem_cons_self (hbs c (hright.subset List.mem_cons_self))

theorem infix_of_infix_append_right {needle as bs : List Char} (hne : needle ≠ [])
    (h : ∀ c ∈ as, c ∉ needle) (hfound : needle <:+: as ++ bs) : needle <:+: bs := by
  rw [← List.reverse_infix, List.reverse_append] at hfound
  rw [← List.reverse_infix]
  refine infix_of_infix_append_left (by simpa using hne) ?_ hfound
  intro c hc
  rw [List.mem_reverse]
  exact h c (List.mem_reverse.mp hc)

theorem afterPrefix?_eq_none_iff {start cs : List Char} :
    afterPrefix? start cs = none ↔ ¬ start <+: cs := by
  rw [Option.eq_none_iff_forall_ne_some]
  constructor
  · rintro h ⟨rest, hrest⟩
    exact h rest (afterPrefix?_eq_some_iff.mpr hrest.symm)
  · intro h rest hrest
    exact h ⟨rest, (afterPrefix?_eq_some_iff.mp hrest).symm⟩

theorem cutAt?_cons_of_not_isPrefix {needle cs : List Char} {c : Char} (h : ¬ needle <+: c :: cs) :
    cutAt? needle (c :: cs) = (cutAt? needle cs).map fun (before, rest) => (c :: before, rest) := by
  rw [cutAt?, afterPrefix?_eq_none_iff.mpr h]

theorem cutAt?_of_prefix {needle rest : List Char} (hne : needle ≠ []) :
    cutAt? needle (needle ++ rest) = some ([], rest) := by
  obtain ⟨c, cs, rfl⟩ := List.exists_cons_of_ne_nil hne
  rw [List.cons_append, cutAt?, ← List.cons_append, afterPrefix?_eq_some_iff.mpr rfl]

theorem prefix_append_dropLast (before needle rest : List Char) :
    before ++ needle.dropLast <+: before ++ needle ++ rest := by
  rw [List.append_assoc, List.prefix_append_right_inj]
  exact (List.dropLast_prefix needle).trans (List.prefix_append needle rest)

theorem isPrefix_append_dropLast_of_isPrefix {before needle rest : List Char} (hne : before ≠ [])
    (h : needle <+: before ++ needle ++ rest) : needle <+: before ++ needle.dropLast := by
  refine List.prefix_of_prefix_length_le h (prefix_append_dropLast before needle rest) ?_
  have hpos := List.length_pos_iff.mpr hne
  rw [List.length_append, List.length_dropLast]
  omega

/-- What is searched does not begin before the place where a text is cut, nor does it reach past
it. -/
theorem cutAt?_eq_some_iff {needle cs before rest : List Char} (hne : needle ≠ []) :
    cutAt? needle cs = some (before, rest) ↔
      cs = before ++ needle ++ rest ∧ ¬ needle <:+: before ++ needle.dropLast := by
  have hshort : ¬ needle <:+: needle.dropLast := by
    intro h
    have hlength := h.length_le
    have hpos := List.length_pos_iff.mpr hne
    rw [List.length_dropLast] at hlength
    omega
  induction cs generalizing before with
  | nil => simp [cutAt?, hne]
  | cons c cs ih =>
      by_cases hprefix : needle <+: c :: cs
      · obtain ⟨tail, htail⟩ := hprefix
        rw [← htail, cutAt?_of_prefix hne, Option.some.injEq, Prod.mk.injEq]
        constructor
        · rintro ⟨rfl, rfl⟩
          exact ⟨rfl, hshort⟩
        · rintro ⟨hcut, hfirst⟩
          cases before with
          | nil => exact ⟨rfl, List.append_cancel_left hcut⟩
          | cons b before =>
              -- the text would be cut before its first place
              have hearly : needle <+: b :: before ++ needle ++ rest := ⟨tail, hcut⟩
              exact absurd
                (isPrefix_append_dropLast_of_isPrefix (List.cons_ne_nil _ _) hearly).isInfix hfirst
      · rw [cutAt?_cons_of_not_isPrefix hprefix, Option.map_eq_some_iff]
        constructor
        · rintro ⟨⟨front, tail⟩, hcut, heq⟩
          obtain ⟨rfl, rfl⟩ := Prod.mk.inj heq
          obtain ⟨rfl, hfirst⟩ := ih.mp hcut
          refine ⟨rfl, fun hfound => ?_⟩
          rcases List.infix_cons_iff.mp hfound with hhere | hlater
          · exact hprefix (hhere.trans (prefix_append_dropLast (c :: front) needle tail))
          · exact hfirst hlater
        · rintro ⟨hcut, hfirst⟩
          cases before with
          | nil => exact absurd ⟨rest, hcut.symm⟩ hprefix
          | cons b before =>
              obtain ⟨rfl, hcs⟩ := List.cons.inj hcut
              exact ⟨(before, rest), ih.mpr ⟨hcs, fun h => hfirst (List.infix_cons h)⟩, rfl⟩

theorem cutAt?_eq_none_iff {needle cs : List Char} (hne : needle ≠ []) :
    cutAt? needle cs = none ↔ ¬ needle <:+: cs := by
  induction cs with
  | nil => simp [cutAt?, hne]
  | cons c cs ih =>
      by_cases hprefix : needle <+: c :: cs
      · obtain ⟨tail, htail⟩ := hprefix
        rw [← htail, cutAt?_of_prefix hne]
        simp [List.infix_append_left]
      · rw [cutAt?_cons_of_not_isPrefix hprefix, Option.map_eq_none_iff, ih, List.infix_cons_iff,
          or_iff_right hprefix]

end Scaffold.Text
