import Scaffold.Proofs.Path.Order
import Scaffold.Proofs.Recipe.Destination
import Scaffold.Proofs.Stamp
/-!
# Relocation

The order of relocated drafts. All drafts that one run relocates go to one folder and have the stamp
of the run before their names. The stamps of the years 0 to 9999 have one length, so of two
relocated drafts the one with the earlier stamp comes first, whatever their names are. A stamp does
not tell the instants of one second apart.
-/

namespace Scaffold

open Text Scaffold.Path

theorem Text.append_lt_append {as bs : List Char} (h : as < bs) (hlength : as.length = bs.length)
    (cs ds : List Char) : as ++ cs < bs ++ ds := by
  induction as generalizing bs with
  | nil =>
      obtain rfl := List.length_eq_zero_iff.mp hlength.symm
      exact absurd h (List.lt_irrefl [])
  | cons a as ih =>
      obtain ⟨b, bs, rfl⟩ := List.exists_cons_of_length_eq_add_one hlength.symm
      rw [List.cons_append, List.cons_append, List.cons_lt_cons_iff]
      rcases List.cons_lt_cons_iff.mp h with hfirst | ⟨hfirst, hrest⟩
      · exact .inl hfirst
      · exact .inr ⟨hfirst, ih hrest (Nat.succ.inj hlength)⟩

theorem Text.Utf8.compare_encode_append {as bs : List Char} (h : as < bs)
    (hlength : as.length = bs.length) (has : ∀ c ∈ as, c.toNat < 0x80)
    (hbs : ∀ c ∈ bs, c.toNat < 0x80) (cs ds : List Char) :
    Ord.compare (encode (as ++ cs)) (encode (bs ++ ds)) = .lt := by
  induction as generalizing bs with
  | nil =>
      obtain rfl := List.length_eq_zero_iff.mp hlength.symm
      exact absurd h (List.lt_irrefl [])
  | cons a as ih =>
      obtain ⟨b, bs, rfl⟩ := List.exists_cons_of_length_eq_add_one hlength.symm
      obtain ⟨ha, has'⟩ := List.forall_mem_cons.mp has
      obtain ⟨hb, hbs'⟩ := List.forall_mem_cons.mp hbs
      rw [List.cons_append, List.cons_append, encode_cons, encode_cons, utf8EncodeChar_of_lt ha,
        utf8EncodeChar_of_lt hb]
      refine List.compareLex_cons_cons.trans ?_
      rcases List.cons_lt_cons_iff.mp h with hfirst | ⟨rfl, hrest⟩
      · have hoctets : UInt8.ofNat a.toNat < UInt8.ofNat b.toNat := by
          rw [UInt8.lt_iff_toNat_lt, toNat_ofNat_toNat ha, toNat_ofNat_toNat hb]
          exact hfirst
        rw [show Ord.compare (UInt8.ofNat a.toNat) (UInt8.ofNat b.toNat) = .lt from
          if_pos hoctets]
        rfl
      · rw [Std.ReflOrd.compare_self]
        exact ih hrest (Nat.succ.inj hlength) has' hbs'

/-- What relocation makes of a draft: it is in a folder, with a stamp before its name. -/
structure Draft.IsMoved (folder : List Component) (stamp : String) (draft moved : Draft) :
    Prop where
  place : moved.path.path.components =
    folder ++ [.name (stamp ++ "_" ++ draft.path.fileName?.getD "" : String)]
  content : moved.content = draft.content

/-- An earlier stamp outweighs what stands behind it. -/
theorem Draft.IsMoved.lt {folder : List Component} {s t : Instant} {f g f' g' : Draft}
    (hf : IsMoved folder s.stamp.text f f') (hg : IsMoved folder t.stamp.text g g')
    (h : s.seconds < t.seconds) (hs : 0 ≤ s.date.year) (ht : t.date.year ≤ 9999) :
    f'.path.toSlash < g'.path.toSlash ∧ f'.path.compare g'.path = .lt := by
  have hyears : s.date.year ≤ t.date.year :=
    Calendar.year_ofDays_le (Int.ediv_le_ediv (by decide) h.le)
  have hlength : s.stamp.text.toList.length = t.stamp.text.toList.length := by
    rw [Instant.stamp, Instant.stamp, String.toList_ofList, String.toList_ofList,
      Instant.length_digits hs (hyears.trans ht), Instant.length_digits (hs.trans hyears) ht]
  have hstamp := String.lt_iff.mp (Instant.stamp_lt_stamp h hs ht)
  have hascii {u : Instant} (hfirst : 0 ≤ u.date.year) (hlast : u.date.year ≤ 9999) :
      ∀ c ∈ u.stamp.text.toList, c.toNat < 0x80 := by
    intro c hc
    rw [Instant.stamp, String.toList_ofList] at hc
    have hdigit := toNat_of_isDigit (Instant.isDigit_of_mem_digits hfirst hlast hc)
    omega
  have hname (u : Instant) (name : String) : (u.stamp.text ++ "_" ++ name).toList =
      u.stamp.text.toList ++ ("_" ++ name).toList := by
    rw [String.append_assoc, String.toList_append]
  constructor
  · obtain ⟨front, hfront⟩ := exists_toSlash_concat folder
    rw [String.lt_iff, RelativePath.toSlash, RelativePath.toSlash, hfront _ _ hf.place,
      hfront _ _ hg.place, RawText.shown_ofString, RawText.shown_ofString,
      @String.toList_append front, @String.toList_append front, hname, hname]
    exact List.append_left_lt (append_lt_append hstamp hlength _ _)
  · refine compare_concat hf.place hg.place ?_
    rw [RawText.octets_ofString, RawText.octets_ofString, hname, hname]
    exact Utf8.compare_encode_append hstamp hlength (hascii hs (hyears.trans ht))
      (hascii (hs.trans hyears) ht) _ _

namespace Stage

section

variable {ending directory : String} {draft : Draft}

theorem exists_isMoved (hdirectory : (bareDirectory directory).head? ≠ some '/')
    (h : draft.hasSuffix ending = true) (t : Instant) :
    ∃ moved, (relocation ending directory t.stamp).apply draft = .ok moved ∧
      draft.IsMoved (Recipe.Auth.folder directory) t.stamp.text moved := by
  let name := draft.path.fileName?.getD ""
  have hrelative := (isAbsolute_stampedPath directory t name).mpr hdirectory
  rw [relocate_of_hasSuffix h, Draft.withPath_of_not_absolute draft hrelative]
  exact ⟨_, rfl, components_stampedPath directory t (slash_notMem_fileName draft.path.path), rfl⟩

/-- A directory is refused for every draft or for none. -/
theorem relocation_accepts_iff (h : draft.hasSuffix ending = true) (t : Instant) :
    (∃ moved, (relocation ending directory t.stamp).apply draft = .ok moved) ↔
      (bareDirectory directory).head? ≠ some '/' := by
  constructor
  · rintro ⟨moved, hmoved⟩
    rw [relocate_of_hasSuffix h] at hmoved
    obtain ⟨hrelative, -⟩ := Draft.withPath_eq_ok_iff.mp hmoved
    exact (isAbsolute_stampedPath directory t _).mp hrelative
  · intro hdirectory
    obtain ⟨moved, hmoved, -⟩ := exists_isMoved hdirectory h t
    exact ⟨moved, hmoved⟩

end

/-- Relocation accepts a directory for all drafts of an ending or for none. One run moves them to
one folder and puts the same fourteen digits before each name, as far as it is a text. What a run of
a later second moves there comes after what an earlier one did, by the text of the path and by its
components. -/
theorem later_migrations_sort_after (ending directory : String) :
    (∀ (t : Instant) (f : Draft), f.hasSuffix ending = true →
      ((∃ moved, (relocation ending directory t.stamp).apply f = .ok moved) ↔
        (bareDirectory directory).head? ≠ some '/')) ∧
    ((bareDirectory directory).head? ≠ some '/' →
      (∀ t : Instant, 0 ≤ t.date.year → t.date.year ≤ 9999 →
        t.stamp.text.toList.length = 14 ∧ (∀ c ∈ t.stamp.text.toList, c.isDigit = true) ∧
        (IsName ending → '/' ∉ ending.toList → ∀ f : Draft, f.hasSuffix ending = true →
          ∃ raw rest moved, f.path.path.components.getLast? = some (.name raw) ∧
            (relocation ending directory t.stamp).apply f = .ok moved ∧
            moved.path.path.components =
              Recipe.Auth.folder directory ++ [.name (t.stamp.text ++ "_" ++ rest : String)] ∧
            (∀ name : String, raw = name → rest = name) ∧
            moved.content = f.content)) ∧
      ∀ s t : Instant, s.seconds < t.seconds → 0 ≤ s.date.year → t.date.year ≤ 9999 →
        ∀ f g : Draft, f.hasSuffix ending = true → g.hasSuffix ending = true →
          ∃ f' g', (relocation ending directory s.stamp).apply f = .ok f' ∧
            (relocation ending directory t.stamp).apply g = .ok g' ∧
            f'.path.toSlash < g'.path.toSlash ∧ f'.path.compare g'.path = .lt) := by
  refine ⟨fun t f hf => relocation_accepts_iff hf t, fun hdirectory => ⟨?_, ?_⟩⟩
  · intro t hfirst hlast
    have htext : t.stamp.text.toList = t.digits := String.toList_ofList
    rw [htext]
    refine ⟨Instant.length_digits hfirst hlast,
      fun _ => Instant.isDigit_of_mem_digits hfirst hlast, fun hname hslash f hf => ?_⟩
    obtain ⟨above, raw, -, hcomponents, -⟩ := (Draft.hasSuffix_iff hname hslash).mp hf
    obtain ⟨moved, hmoved, hplace, hcontent⟩ := exists_isMoved hdirectory hf t
    have hraw : f.path.fileName? = raw.text? := by
      rw [RelativePath.fileName?, Path.fileName?, hcomponents, List.getLast?_concat]
    refine ⟨raw, f.path.fileName?.getD "", moved, by rw [hcomponents, List.getLast?_concat],
      hmoved, hplace, ?_, hcontent⟩
    rintro name rfl
    rw [hraw, RawText.text?_ofString, Option.getD_some]
  · intro s t h hs ht f g hf hg
    obtain ⟨f', hf', hmoved⟩ := exists_isMoved hdirectory hf s
    obtain ⟨g', hg', hmoved'⟩ := exists_isMoved hdirectory hg t
    exact ⟨f', g', hf', hg', hmoved.lt hmoved' h hs ht⟩

/-- The later migration has the smaller name and comes last. -/
theorem migrations_around_new_year :
    let s : Instant := ⟨1735689599999999999, by decide⟩
    let t : Instant := ⟨1735689600000000000, by decide⟩
    let f : Draft := ⟨⟨⟨"old/zebras.fizz"⟩, rfl⟩, "drop_table(\"zebras\")\n".toUTF8⟩
    let g : Draft := ⟨⟨⟨"./ants.fizz"⟩, rfl⟩, "add_table(\"ants\")\n".toUTF8⟩
    ∃ f' g', (relocation ".fizz" "db//migrate/./" s.stamp).apply f = .ok f' ∧
      (relocation ".fizz" "db//migrate/./" t.stamp).apply g = .ok g' ∧
      f'.path.toSlash < g'.path.toSlash ∧ f'.path.compare g'.path = .lt := by
  intro s t f g
  obtain ⟨-, hmoves⟩ := later_migrations_sort_after ".fizz" "db//migrate/./"
  obtain ⟨-, hsort⟩ := hmoves (by decide)
  exact hsort s t (by decide) (by decide) (by decide) f g (by decide) (by decide)

/-- Two instants of one second: the later migration goes where the earlier one went. -/
theorem migrations_in_one_second :
    let s : Instant := ⟨1735689600000000000, by decide⟩
    let t : Instant := ⟨1735689600999999999, by decide⟩
    let f : Draft := ⟨⟨⟨"old/zebras.fizz"⟩, rfl⟩, "drop_table(\"zebras\")\n".toUTF8⟩
    s.nanoseconds < t.nanoseconds ∧ f.hasSuffix ".fizz" = true ∧
    ∃ moved, (relocation ".fizz" "migrations" s.stamp).apply f = .ok moved ∧
      (relocation ".fizz" "migrations" t.stamp).apply f = .ok moved ∧
      moved.path.toSlash = "migrations/20250101000000_zebras.fizz" := by
  intro s t f
  have hstamp : s.stamp = t.stamp := by decide
  have hsuffix : f.hasSuffix ".fizz" = true := by decide
  obtain ⟨moved, hmoved, hplace, -⟩ := @exists_isMoved ".fizz" "migrations" f (by decide) hsuffix s
  refine ⟨by decide, hsuffix, moved, hmoved, hstamp ▸ hmoved, ?_⟩
  rw [RelativePath.toSlash, Path.toSlash, hplace]
  decide +kernel

end Stage

end Scaffold
