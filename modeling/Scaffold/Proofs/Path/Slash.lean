import Scaffold.Proofs.Path.Components
/-!
# Slash forms and joined paths

The slash form of a relative path denotes the components of the path as they are shown, which are its
own components if the path is a text. A new ending of the slash form changes the last name only, and
a path under a directory has the components of the directory before its own.
-/

namespace Scaffold.Path

open Text

theorem isAbsolute_eq_false_iff {path : Path} :
    path.isAbsolute = false ↔ path.octets.head? ≠ some slash :=
  decide_eq_false_iff_not

theorem octets_ofString (text : String) : (Path.mk text).octets = Utf8.encode text.toList := rfl

theorem segments_ofString (text : String) :
    (Path.mk text).segments = (fields '/' text.toList).map Utf8.encode :=
  @Utf8.fields_encode '/' (by decide) text.toList

theorem slash_mem_encode_iff {cs : List Char} : slash ∈ Utf8.encode cs ↔ '/' ∈ cs :=
  @Utf8.mem_encode_iff '/' (by decide) cs

theorem isAbsolute_ofString_iff {text : String} :
    (Path.mk text).isAbsolute = false ↔ text.toList.head? ≠ some '/' := by
  rw [isAbsolute_eq_false_iff, octets_ofString, not_iff_not]
  cases text.toList with
  | nil => simp
  | cons c cs =>
      rw [Utf8.encode_cons, List.head?_cons, Option.some.injEq]
      constructor
      · intro h
        have hmem : slash ∈ String.utf8EncodeChar c := by
          obtain ⟨b, bs, hb⟩ := List.exists_cons_of_ne_nil (@String.utf8EncodeChar_ne_nil c)
          rw [hb, List.cons_append, List.head?_cons, Option.some.injEq] at h
          rw [hb, h]
          exact List.mem_cons_self
        exact ((@Utf8.mem_utf8EncodeChar_iff '/' c (by decide)).mp hmem).symm
      · rintro rfl
        rfl

/-- A path whose octets are the UTF-8 form of a text. -/
def IsText (path : Path) : Prop :=
  path.raw.IsText

theorem isText_ofString (text : String) : IsText ⟨text⟩ :=
  ⟨text, rfl⟩

/-! ## Names -/

/-- Octets that stand for an entry wherever they are in a path. -/
structure IsName (raw : RawText) : Prop where
  ne_nil : raw.octets ≠ []
  ne_here : raw.octets ≠ [dot]
  ne_up : raw.octets ≠ [dot, dot]

theorem IsName.append {raw : RawText} (h : IsName raw) (stem : RawText) : IsName (stem ++ raw) where
  ne_nil := List.append_ne_nil_of_right_ne_nil _ h.ne_nil
  ne_here := by
    intro heq
    have hsuffix : raw.octets <:+ [dot] := ⟨stem.octets, heq⟩
    rcases List.suffix_cons_iff.mp hsuffix with hsegment | hsegment
    · exact h.ne_here hsegment
    · exact h.ne_nil (List.suffix_nil.mp hsegment)
  ne_up := by
    intro heq
    have hsuffix : raw.octets <:+ [dot, dot] := ⟨stem.octets, heq⟩
    rcases List.suffix_cons_iff.mp hsuffix with hsegment | hsegment
    · exact h.ne_up hsegment
    · rcases List.suffix_cons_iff.mp hsegment with hsegment | hsegment
      · exact h.ne_here hsegment
      · exact h.ne_nil (List.suffix_nil.mp hsegment)

theorem IsName.component? {raw : RawText} (h : IsName raw) :
    component? raw.octets = some (.name raw) := by
  rw [Path.component?, if_neg (not_or.mpr ⟨h.ne_nil, h.ne_here⟩), if_neg h.ne_up]

theorem isName_of_component? {segment : List UInt8} {raw : RawText}
    (h : component? segment = some (.name raw)) : IsName raw := by
  unfold Path.component? at h
  split at h
  · cases h
  · next hidle =>
      split at h
      · cases h
      · next hup =>
          obtain rfl := Component.name.inj (Option.some.inj h)
          exact ⟨fun hnil => hidle (.inl hnil), fun hhere => hidle (.inr hhere), hup⟩

theorem octets_of_component? {segment : List UInt8} {c : Component}
    (h : component? segment = some c) : c.raw.octets = segment := by
  unfold Path.component? at h
  split at h
  · cases h
  · split at h
    · next hup =>
        obtain rfl := Option.some.inj h
        exact hup.symm
    · obtain rfl := Option.some.inj h
      rfl

theorem component?_ne_here {segment : List UInt8} : component? segment ≠ some .here := by
  unfold component?
  split
  · simp
  · split <;> simp

theorem octets_mem_segments {p : Path} {raw : RawText}
    (h : .name raw ∈ p.components) : raw.octets ∈ p.segments ∧ IsName raw := by
  obtain ⟨lead, rest, hsegments⟩ : ∃ lead rest, p.segments = lead :: rest :=
    exists_fields_eq_cons slash p.octets
  rw [components_of_segments hsegments, List.mem_append] at h
  rw [hsegments]
  rcases h with h | h
  · have hlead : component? lead = some (.name raw) := by
      unfold leadComponents at h
      split at h
      · split at h <;> simp at h
      · split at h
        · simp at h
        · exact Option.mem_toList.mp h
    refine ⟨?_, isName_of_component? hlead⟩
    rw [show raw.octets = lead from octets_of_component? hlead]
    exact List.mem_cons_self
  · obtain ⟨segment, hsegment, hname⟩ := List.mem_filterMap.mp h
    refine ⟨?_, isName_of_component? hname⟩
    rw [← show raw.octets = segment from octets_of_component? hname] at hsegment
    exact List.mem_cons_of_mem _ hsegment

theorem slash_notMem_of_mem_components {p : Path} {raw : RawText}
    (h : .name raw ∈ p.components) : slash ∉ raw.octets :=
  separator_notMem_of_mem_fields (octets_mem_segments h).1

theorem slash_notMem_fileName (p : Path) : '/' ∉ (p.fileName?.getD "").toList := by
  unfold fileName?
  split
  · next raw hlast =>
      cases hraw : raw.text? with
      | none => simp
      | some text =>
          obtain rfl := RawText.text?_eq_some_iff.mp hraw
          rw [Option.getD_some, ← slash_mem_encode_iff]
          exact slash_notMem_of_mem_components (List.mem_of_getLast? hlast)
  · simp

theorem componentsOf_concat {raw : RawText} {init : List (List UInt8)} (h : IsName raw)
    (hinit : init ≠ [[]]) :
    componentsOf (init ++ [raw.octets]) = componentsOf init ++ [.name raw] := by
  cases init with
  | nil =>
      rw [List.nil_append, componentsOf_cons, leadComponents, if_neg h.ne_nil, if_neg h.ne_here,
        h.component?]
      rfl
  | cons lead rest =>
      have hlead : leadComponents lead (rest ++ [raw.octets]) = leadComponents lead rest := by
        apply leadComponents_congr
        rintro rfl
        have hrest : rest ≠ [] := fun hrest => hinit (by rw [hrest])
        simp [hrest]
      rw [List.cons_append, componentsOf_cons, componentsOf_cons, hlead, List.filterMap_append,
        List.filterMap_cons_some h.component?, List.filterMap_nil, List.append_assoc]

/-! ## Components as they are shown -/

/-- A component as it is read from what is shown of it. -/
def Component.lossy : Component → Component
  | .name raw => .name raw.shown
  | c => c

theorem Component.raw_lossy (c : Component) : c.lossy.raw = c.shown := by
  cases c with
  | name raw => rfl
  | _ => exact congrArg RawText.ofString (RawText.shown_ofString _).symm

@[simp] theorem Component.lossy_eq_here_iff {c : Component} : c.lossy = .here ↔ c = .here := by
  cases c <;> simp [lossy]

@[simp] theorem Component.lossy_eq_up_iff {c : Component} : c.lossy = .up ↔ c = .up := by
  cases c <;> simp [lossy]

theorem isPlain_dots {c : Char} (h : c = '.' ∨ c = '/') : Utf8.IsPlain c := by
  rcases h with rfl | rfl <;> decide

theorem IsName.shown {raw : RawText} (h : IsName raw) : IsName raw.shown := by
  have hdots (cs : List Char) (hcs : ∀ c ∈ cs, c = '.')
      (heq : (RawText.ofString raw.shown).octets = Utf8.encode cs) : raw.octets = Utf8.encode cs := by
    rw [RawText.octets_ofString, Utf8.encode_inj] at heq
    have hplain : ∀ c ∈ raw.shown.toList, Utf8.IsPlain c := fun c hc =>
      isPlain_dots (.inl (hcs c (heq ▸ hc)))
    rw [RawText.eq_ofString_of_plain hplain, RawText.octets_ofString, heq]
  exact ⟨fun heq => h.ne_nil (hdots [] (by simp) heq),
    fun heq => h.ne_here (hdots ['.'] (by simp) heq),
    fun heq => h.ne_up (hdots ['.', '.'] (by simp) heq)⟩

theorem slash_notMem_shown {raw : RawText} (h : slash ∉ raw.octets) :
    slash ∉ (RawText.ofString raw.shown).octets := by
  rw [RawText.octets_ofString, slash_mem_encode_iff]
  exact fun hmem => h (RawText.mem_octets_of_mem_shown (isPlain_dots (.inr rfl)) hmem)

theorem component?_lossy {c : Component} (h : component? c.raw.octets = some c) :
    component? c.lossy.raw.octets = some c.lossy := by
  cases c with
  | name raw => exact (isName_of_component? h).shown.component?
  | _ => exact h

/-! ## Slash forms -/

theorem exists_segments_of_relative {p : Path} (h : p.isAbsolute = false) (hpath : p.octets ≠ []) :
    ∃ lead rest, p.segments = lead :: rest ∧ lead ≠ [] := by
  obtain ⟨lead, rest, hsegments⟩ := exists_fields_eq_cons slash p.octets
  refine ⟨lead, rest, hsegments, ?_⟩
  rintro rfl
  rw [isAbsolute_eq_false_iff] at h
  cases hlist : p.octets with
  | nil => exact hpath hlist
  | cons b bs =>
      rw [hlist] at h hsegments
      have hb : b ≠ slash := fun heq => h (by rw [heq]; rfl)
      obtain ⟨field, rest', hbs⟩ := exists_fields_eq_cons slash bs
      rw [fields_cons_of_ne hb hbs] at hsegments
      cases (List.cons.inj hsegments).1

/-- The first component of a relative path may be a `.`. All others have segments that stand for
them wherever they are, and no segment holds a slash. -/
theorem exists_components_of_relative {p : Path} (h : p.isAbsolute = false)
    (hpath : p.octets ≠ []) :
    ∃ c cs, p.components = c :: cs ∧ (c = .here ∨ component? c.raw.octets = some c) ∧
      (∀ d ∈ cs, component? d.raw.octets = some d) ∧ ∀ d ∈ c :: cs, slash ∉ d.raw.octets := by
  obtain ⟨lead, rest, hsegments, hlead⟩ := exists_segments_of_relative h hpath
  have hself {segment : List UInt8} {d : Component} (hd : component? segment = some d) :
      component? d.raw.octets = some d := by
    rw [octets_of_component? hd, hd]
  have hfree {segment : List UInt8} (hsegment : segment ∈ p.segments) : slash ∉ segment :=
    separator_notMem_of_mem_fields hsegment
  rw [components_of_segments hsegments, leadComponents, if_neg hlead]
  rw [hsegments] at hfree
  have htail (d : Component) (hd : d ∈ rest.filterMap component?) :
      component? d.raw.octets = some d ∧ slash ∉ d.raw.octets := by
    obtain ⟨segment, hsegment, hd⟩ := List.mem_filterMap.mp hd
    rw [hself hd, octets_of_component? hd]
    exact ⟨rfl, hfree (List.mem_cons_of_mem _ hsegment)⟩
  by_cases hhere : lead = [dot]
  · refine ⟨.here, rest.filterMap component?, by rw [if_pos hhere]; rfl, .inl rfl,
      fun d hd => (htail d hd).1, ?_⟩
    intro d hd
    rcases List.mem_cons.mp hd with rfl | hd
    · decide
    · exact (htail d hd).2
  · have hbusy : isIdle lead = false := by simp [isIdle, hlead, hhere]
    obtain ⟨c, hc⟩ := component?_isSome hbusy
    refine ⟨c, rest.filterMap component?, by rw [if_neg hhere, hc]; rfl, .inr (hself hc),
      fun d hd => (htail d hd).1, ?_⟩
    intro d hd
    rcases List.mem_cons.mp hd with rfl | hd
    · rw [octets_of_component? hc]
      exact hfree List.mem_cons_self
    · exact (htail d hd).2

theorem componentsOf_map_octets {c : Component} {cs : List Component}
    (hc : c = .here ∨ component? c.raw.octets = some c)
    (hcs : ∀ d ∈ cs, component? d.raw.octets = some d) :
    componentsOf ((c :: cs).map (·.raw.octets)) = c :: cs := by
  have hrest : (cs.map (·.raw.octets)).filterMap component? = cs := by
    induction cs with
    | nil => rfl
    | cons d cs ih =>
        obtain ⟨hd, hcs⟩ := List.forall_mem_cons.mp hcs
        rw [List.map_cons, List.filterMap_cons_some hd, ih hcs]
  rw [List.map_cons, componentsOf_cons, hrest]
  rcases hc with rfl | hc
  · rfl
  · have hbusy : c.raw.octets ≠ [] ∧ c.raw.octets ≠ [dot] := by
      rw [← not_or]
      intro hidle
      rw [component?, if_pos hidle] at hc
      cases hc
    rw [leadComponents, if_neg hbusy.1, if_neg hbusy.2, hc]
    rfl

theorem encode_toSlash {p : Path} :
    (Path.mk p.toSlash).octets = joinWith [slash] (p.components.map (·.lossy.raw.octets)) := by
  have hlossy : (fun c : Component => c.lossy.raw.octets) =
      fun c => Utf8.encode c.shown.toList :=
    funext fun c => congrArg RawText.octets c.raw_lossy
  rw [hlossy, octets_ofString, toSlash, String.toList_intercalate, List.map_map]
  generalize p.components = cs
  induction cs with
  | nil => rfl
  | cons c cs ih =>
      cases cs with
      | nil => simp [joinWith]
      | cons d cs =>
          simp only [List.map_cons, List.intercalate_cons_cons, joinWith] at ih ⊢
          rw [Utf8.encode_append, Utf8.encode_append, ih]
          rfl

theorem segments_toSlash {p : Path} (h : p.isAbsolute = false) (hpath : p.octets ≠ []) :
    (Path.mk p.toSlash).segments = p.components.map (·.lossy.raw.octets) := by
  obtain ⟨c, cs, hcomponents, -, -, hfree⟩ := exists_components_of_relative h hpath
  have hne : p.components.map (·.lossy.raw.octets) ≠ [] := by
    rw [hcomponents]
    exact List.cons_ne_nil _ _
  have hslash : ∀ part ∈ p.components.map (·.lossy.raw.octets), slash ∉ part := by
    intro part hpart
    obtain ⟨d, hd, rfl⟩ := List.mem_map.mp hpart
    rw [d.raw_lossy]
    exact slash_notMem_shown (hfree d (hcomponents ▸ hd))
  rw [segments, encode_toSlash, fields_joinWith hne hslash]

/-- The slash form of a relative path denotes the components as they are shown. -/
theorem components_toSlash {p : Path} (h : p.isAbsolute = false) :
    (Path.mk p.toSlash).components = p.components.map Component.lossy := by
  by_cases hpath : p.octets = []
  · have hnil := components_eq_nil_iff.mpr hpath
    rw [toSlash, hnil]
    rfl
  · obtain ⟨c, cs, hcomponents, hc, hcs, -⟩ := exists_components_of_relative h hpath
    have hlossy : (c :: cs).map (·.lossy.raw.octets) =
        ((c :: cs).map Component.lossy).map (·.raw.octets) := by
      rw [List.map_map]
      rfl
    rw [components, segments_toSlash h hpath, hcomponents, hlossy, List.map_cons]
    apply componentsOf_map_octets
    · rcases hc with rfl | hc
      · exact .inl rfl
      · exact .inr (component?_lossy hc)
    · intro d hd
      obtain ⟨d', hd', rfl⟩ := List.mem_map.mp hd
      exact component?_lossy (hcs d' hd')

theorem octets_ne_nil_of_component? {segment : List UInt8} {c : Component}
    (h : component? segment = some c) : segment ≠ [] := by
  rintro rfl
  cases h

theorem isAbsolute_toSlash {p : Path} (h : p.isAbsolute = false) :
    (Path.mk p.toSlash).isAbsolute = false := by
  by_cases hpath : p.octets = []
  · rw [toSlash, components_eq_nil_iff.mpr hpath]
    rfl
  · obtain ⟨c, cs, hcomponents, hc, -, -⟩ := exists_components_of_relative h hpath
    have hlead : c.lossy.raw.octets ≠ [] := by
      rcases hc with rfl | hc
      · exact List.cons_ne_nil _ _
      · exact octets_ne_nil_of_component? (component?_lossy hc)
    rw [isAbsolute_eq_false_iff]
    intro hhead
    obtain ⟨bs, hbs⟩ := List.head?_eq_some_iff.mp hhead
    have hsegments := segments_toSlash h hpath
    rw [segments, hbs, fields_cons_separator, hcomponents, List.map_cons] at hsegments
    exact hlead (List.cons.inj hsegments).1.symm

/-! ## Texts -/

theorem IsText.eq_ofString {p : Path} (h : p.IsText) : p = ⟨p.text⟩ := by
  cases p
  exact congrArg Path.mk (RawText.isText_iff.mp h)

theorem Component.lossy_of_isText {c : Component} (h : c.raw.IsText) : c.lossy = c := by
  cases c with
  | name raw => exact congrArg Component.name (RawText.isText_iff.mp h).symm
  | _ => rfl

theorem IsText.of_mem {p : Path} (h : p.IsText) {c : Component} (hc : c ∈ p.components) :
    c.raw.IsText := by
  cases c with
  | name raw =>
      obtain ⟨text, hraw⟩ := h
      have hp : p = ⟨text⟩ := by
        cases p
        exact congrArg Path.mk hraw
      have hsegment := (octets_mem_segments hc).1
      rw [hp, segments_ofString] at hsegment
      obtain ⟨field, -, hfield⟩ := List.mem_map.mp hsegment
      refine ⟨String.ofList field, ?_⟩
      cases raw
      rw [RawText.ofString, String.toList_ofList]
      exact congrArg RawText.mk hfield.symm
  | _ => exact ⟨_, rfl⟩

theorem IsText.map_lossy {p : Path} (h : p.IsText) :
    p.components.map Component.lossy = p.components := by
  have hself (c : Component) (hc : c ∈ p.components) : c.lossy = id c :=
    Component.lossy_of_isText (h.of_mem hc)
  rw [List.map_congr_left hself, List.map_id]

@[simp] theorem Component.shown_lossy (c : Component) : c.lossy.shown = c.shown := by
  rw [shown, raw_lossy, RawText.shown_ofString]

theorem toSlash_of_components {p q : Path}
    (h : p.components.map Component.lossy = q.components.map Component.lossy) :
    p.toSlash = q.toSlash := by
  have hshown (p : Path) :
      p.components.map Component.shown = (p.components.map Component.lossy).map Component.shown := by
    rw [List.map_map]
    exact List.map_congr_left fun c _ => c.shown_lossy.symm
  rw [toSlash, toSlash, hshown p, h, ← hshown q]

/-- Two relative paths are shown alike exactly when all their components are. -/
theorem toSlash_eq_iff_lossy {p q : Path} (hp : p.isAbsolute = false) (hq : q.isAbsolute = false) :
    p.toSlash = q.toSlash ↔
      p.components.map Component.lossy = q.components.map Component.lossy := by
  constructor
  · intro h
    rw [← components_toSlash hp, h, components_toSlash hq]
  · exact toSlash_of_components

/-! ## Last names -/

/-- Components whose last one is a name that is shown with an ending. -/
def HasEnding (ending : String) (components : List Component) : Prop :=
  ∃ above raw stem, components = above ++ [.name raw] ∧ raw.shown = stem ++ ending

theorem hasEnding_concat_iff {ending : String} {above : List Component} {raw : RawText} :
    HasEnding ending (above ++ [.name raw]) ↔ ∃ stem, raw.shown = stem ++ ending := by
  constructor
  · rintro ⟨above', raw', stem, heq, hshown⟩
    obtain ⟨-, hname⟩ := List.append_singleton_inj.mp heq
    obtain rfl := Component.name.inj hname
    exact ⟨stem, hshown⟩
  · rintro ⟨stem, hshown⟩
    exact ⟨above, raw, stem, rfl, hshown⟩

theorem hasEnding_iff_lossy {ending : String} {components : List Component} :
    HasEnding ending components ↔ ∃ above stem,
      components.map Component.lossy = above ++ [.name (stem ++ ending : String)] := by
  constructor
  · rintro ⟨above, raw, stem, rfl, hshown⟩
    refine ⟨above.map Component.lossy, stem, ?_⟩
    rw [List.map_append, List.map_singleton, Component.lossy, hshown]
  · rintro ⟨above, stem, hlossy⟩
    obtain ⟨above', rest, rfl, -, hrest⟩ := List.map_eq_append_iff.mp hlossy
    obtain ⟨c, rfl, hc⟩ := List.map_eq_singleton_iff.mp hrest
    cases c with
    | name raw => exact ⟨above', raw, stem, rfl, RawText.ofString_inj.mp (Component.name.inj hc)⟩
    | _ => cases hc

/-- A relative path whose slash form has an ending has it in its last name, and another ending in
its place changes that name alone. -/
theorem exists_name_of_toSlash {p : Path} (h : p.isAbsolute = false) {stem ending : String}
    (hname : IsName ending) (hending : '/' ∉ ending.toList) (hslash : p.toSlash = stem ++ ending) :
    ∃ above last, p.components.map Component.lossy = above ++ [.name (last ++ ending : String)] ∧
      ∀ other : String, IsName other → '/' ∉ other.toList →
        (Path.mk (stem ++ other : String)).components =
          above ++ [.name (last ++ other : String)] := by
  obtain ⟨init, last, -, happend⟩ := exists_fields_append '/' stem.toList
  have hpath : p.octets ≠ [] := by
    intro hpath
    have hnil : p.toSlash.toList = [] := by
      rw [toSlash, components_eq_nil_iff.mpr hpath]
      rfl
    rw [hslash, String.toList_append, List.append_eq_nil_iff] at hnil
    apply hname.ne_nil
    rw [RawText.octets_ofString, hnil.2]
    rfl
  have hsegments (other : String) (hfree : '/' ∉ other.toList) :
      (Path.mk (stem ++ other : String)).segments =
        init.map Utf8.encode ++ [(RawText.ofString (String.ofList last ++ other)).octets] := by
    rw [segments_ofString, String.toList_append, happend _ hfree, List.map_append,
      RawText.octets_ofString, String.toList_append, String.toList_ofList]
    rfl
  have hinit : init.map Utf8.encode ≠ [[]] := by
    intro hinit
    obtain ⟨c, cs, hcomponents, hc, -, -⟩ := exists_components_of_relative h hpath
    have hlead : c.lossy.raw.octets ≠ [] := by
      rcases hc with rfl | hc
      · exact List.cons_ne_nil _ _
      · exact octets_ne_nil_of_component? (component?_lossy hc)
    have hends := hsegments ending hending
    rw [← hslash, segments_toSlash h hpath, hcomponents, hinit] at hends
    exact hlead (List.cons.inj hends).1
  have hcomponents (other : String) (hother : IsName other) (hfree : '/' ∉ other.toList) :
      (Path.mk (stem ++ other : String)).components =
        componentsOf (init.map Utf8.encode) ++ [.name (String.ofList last ++ other : String)] := by
    have happended : IsName (String.ofList last ++ other : String) := by
      rw [RawText.ofString_append]
      exact hother.append _
    rw [components, hsegments other hfree, componentsOf_concat happended hinit]
  refine ⟨_, String.ofList last, ?_, hcomponents⟩
  rw [← components_toSlash h, hslash, hcomponents ending hname hending]

theorem exists_toSlash_concat (above : List Component) :
    ∃ front : String, ∀ (p : Path) (raw : RawText), p.components = above ++ [.name raw] →
      p.toSlash = front ++ raw.shown := by
  by_cases habove : above.map Component.shown = []
  · refine ⟨"", fun p raw h => ?_⟩
    rw [toSlash, h, List.map_append, habove, List.nil_append, String.empty_append]
    exact String.intercalate_singleton
  · refine ⟨String.intercalate "/" (above.map Component.shown) ++ "/", fun p raw h => ?_⟩
    rw [toSlash, h, List.map_append, List.map_singleton,
      String.intercalate_append_of_ne_nil habove (List.cons_ne_nil _ _),
      String.intercalate_singleton]
    rfl

theorem suffix_toSlash {p : Path} {above : List Component} {raw : RawText}
    (h : p.components = above ++ [.name raw]) : raw.shown.toList <:+ p.toSlash.toList := by
  obtain ⟨front, hfront⟩ := exists_toSlash_concat above
  rw [hfront p raw h, String.toList_append]
  exact List.suffix_append _ _

/-! ## Joined paths -/

/-- Segments added at the end add their components, whether or not they come after idle ones. -/
theorem componentsOf_append {lead : List UInt8} {rest idle more : List (List UInt8)}
    (hidle : idle.filterMap component? = [])
    (hlead : lead = [] → (rest ++ more = [] ↔ rest ++ idle = [])) :
    componentsOf (lead :: (rest ++ more)) =
      componentsOf (lead :: (rest ++ idle)) ++ more.filterMap component? := by
  rw [componentsOf_cons, componentsOf_cons, leadComponents_congr hlead, List.filterMap_append,
    List.filterMap_append, hidle, List.append_nil, List.append_assoc]

theorem segments_append_slash (base rest : List UInt8) :
    (Path.mk ⟨base ++ slash :: rest⟩).segments =
      (Path.mk ⟨base⟩).segments ++ (Path.mk ⟨rest⟩).segments :=
  fields_append_separator base rest

theorem components_append_slash {base : List UInt8} (hbase : base ≠ []) (rest : List UInt8) :
    (Path.mk ⟨base ++ slash :: rest⟩).components =
      (Path.mk ⟨base⟩).components ++ (Path.mk ⟨rest⟩).segments.filterMap component? := by
  obtain ⟨lead, others, hsegments⟩ : ∃ lead others, (Path.mk ⟨base⟩).segments = lead :: others :=
    exists_fields_eq_cons slash base
  have hlead : lead = [] → (others ++ (Path.mk ⟨rest⟩).segments = [] ↔ others ++ [] = []) := by
    rintro rfl
    have hothers : others ≠ [] := by
      rintro rfl
      exact hbase (segments_eq_nil_singleton hsegments)
    simp [hothers]
  rw [components, components, segments_append_slash, hsegments, List.cons_append,
    componentsOf_append List.filterMap_nil hlead, List.append_nil]

theorem components_concat_name {base name : String} (hbase : base ≠ "") (hname : IsName name)
    (hslash : '/' ∉ name.toList) :
    (Path.mk (base ++ "/" ++ name : String)).components =
      (Path.mk base).components ++ [.name name] := by
  have hpath : (RawText.ofString (base ++ "/" ++ name)) =
      ⟨(RawText.ofString base).octets ++ slash :: (RawText.ofString name).octets⟩ := by
    rw [RawText.ofString_append, RawText.ofString_append]
    exact congrArg RawText.mk (List.append_assoc _ [slash] _)
  have hoctets : (RawText.ofString base).octets ≠ [] := fun hnil =>
    hbase (RawText.ofString_inj.mp (congrArg RawText.mk hnil))
  have hsegments : (Path.mk name).segments = [(RawText.ofString name).octets] := by
    rw [segments_ofString, fields_of_notMem hslash]
    rfl
  rw [hpath, components_append_slash hoctets]
  change _ ++ (Path.mk name).segments.filterMap component? = _
  rw [hsegments, List.filterMap_cons_some hname.component?, List.filterMap_nil]

theorem components_join_of_octets_ne {root p : Path} (hroot : root.octets ≠ [])
    (h : p.isAbsolute = false) :
    (root.join p).components = root.components ++ p.segments.filterMap component? := by
  obtain ⟨⟨base⟩⟩ := root
  obtain ⟨⟨rest⟩⟩ := p
  have hjoin : (Path.mk ⟨base⟩).join ⟨⟨rest⟩⟩ =
      if base.getLast? = some slash then ⟨⟨base ++ rest⟩⟩ else ⟨⟨base ++ slash :: rest⟩⟩ :=
    if_neg (not_or.mpr ⟨by simp [h], hroot⟩)
  rw [hjoin]
  by_cases hslash : base.getLast? = some slash
  · -- the slash that ends the directory is the one that joins
    rw [if_pos hslash]
    obtain ⟨stem, rfl⟩ := List.getLast?_eq_some_iff.mp hslash
    obtain ⟨lead, others, hsegments⟩ :
        ∃ lead others, (Path.mk ⟨stem⟩).segments = lead :: others :=
      exists_fields_eq_cons slash _
    have hjoined : (Path.mk ⟨stem ++ [slash] ++ rest⟩).segments =
        (Path.mk ⟨stem⟩).segments ++ (Path.mk ⟨rest⟩).segments := by
      rw [List.append_assoc, List.singleton_append, segments_append_slash]
    have hbase : (Path.mk ⟨stem ++ [slash]⟩).segments = (Path.mk ⟨stem⟩).segments ++ [[]] :=
      segments_append_slash stem []
    have hidle : [[]].filterMap component? = [] := rfl
    have hlead : lead = [] → (others ++ (Path.mk ⟨rest⟩).segments = [] ↔ others ++ [[]] = []) := by
      have hne : (Path.mk ⟨rest⟩).segments ≠ [] := fields_ne_nil _
      simp [hne]
    change componentsOf (Path.mk ⟨stem ++ [slash] ++ rest⟩).segments =
      componentsOf (Path.mk ⟨stem ++ [slash]⟩).segments ++ _
    rw [hjoined, hbase, hsegments, List.cons_append, List.cons_append,
      componentsOf_append hidle hlead]
  · rw [if_neg hslash]
    exact components_append_slash hroot rest

theorem filter_ne_here_filterMap_component? (segments : List (List UInt8)) :
    (segments.filterMap component?).filter (· ≠ .here) = segments.filterMap component? := by
  rw [List.filter_eq_self]
  intro c hc
  obtain ⟨segment, -, hsegment⟩ := List.mem_filterMap.mp hc
  rw [decide_eq_true_eq]
  rintro rfl
  exact component?_ne_here hsegment

/-- Behind a directory a relative path loses the `.` it may begin with, and nothing else. -/
theorem filterMap_component?_segments {p : Path} (h : p.isAbsolute = false) :
    p.segments.filterMap component? = p.components.filter (· ≠ .here) := by
  by_cases hpath : p.octets = []
  · rw [components_eq_nil_iff.mpr hpath, segments, hpath]
    rfl
  · obtain ⟨lead, rest, hsegments, hlead⟩ := exists_segments_of_relative h hpath
    rw [hsegments, components_of_segments hsegments, List.filter_append,
      filter_ne_here_filterMap_component?, leadComponents, if_neg hlead]
    by_cases hhere : lead = [dot]
    · subst hhere
      rfl
    · have hbusy : isIdle lead = false := by simp [isIdle, hlead, hhere]
      obtain ⟨c, hc⟩ := component?_isSome hbusy
      have hne : c ≠ .here := fun heq => component?_ne_here (heq ▸ hc)
      simp [hhere, hc, hne]

/-- What a relative path adds to the directory it is joined to. -/
def within (root : Path) (components : List Component) : List Component :=
  if root.octets = [] then components else components.filter (· ≠ .here)

theorem within_of_notMem {components : List Component} (h : .here ∉ components) (root : Path) :
    within root components = components := by
  unfold within
  split
  · rfl
  · rw [List.filter_eq_self]
    intro c hc
    rw [decide_eq_true_eq]
    rintro rfl
    exact h hc

theorem components_join {p : Path} (h : p.isAbsolute = false) (root : Path) :
    (root.join p).components = root.components ++ within root p.components := by
  by_cases hroot : root.octets = []
  · rw [join, if_pos (Or.inr hroot), within, if_pos hroot, components_eq_nil_iff.mpr hroot,
      List.nil_append]
  · rw [components_join_of_octets_ne hroot h, filterMap_component?_segments h, within, if_neg hroot]

theorem components_join_eq_iff {p q : Path} (hp : p.isAbsolute = false)
    (hq : q.isAbsolute = false) (root : Path) :
    (root.join p).components = (root.join q).components ↔
      within root p.components = within root q.components := by
  rw [components_join hp, components_join hq, List.append_cancel_left_eq]

theorem components_join_toSlash {p : Path} (h : p.isAbsolute = false) (htext : p.IsText)
    (root : Path) : (root.join ⟨p.toSlash⟩).components = (root.join p).components := by
  rw [components_join (isAbsolute_toSlash h), components_join h, components_toSlash h,
    htext.map_lossy]

theorem within_concat_name (root : Path) (above : List Component) (raw : RawText) :
    within root (above ++ [.name raw]) = within root above ++ [.name raw] := by
  unfold within
  split
  · rfl
  · simp

theorem within_map_lossy (root : Path) (components : List Component) :
    within root (components.map Component.lossy) = (within root components).map Component.lossy := by
  unfold within
  split
  · rfl
  · rw [List.filter_map]
    congr 1
    apply List.filter_congr
    simp

theorem eq_nil_of_components_eq_concat_here {p : Path} {above : List Component}
    (h : p.components = above ++ [.here]) : above = [] := by
  obtain ⟨lead, rest, hsegments⟩ : ∃ lead rest, p.segments = lead :: rest :=
    exists_fields_eq_cons slash p.octets
  rw [components_of_segments hsegments] at h
  rcases List.eq_nil_or_concat (rest.filterMap component?) with hrest | ⟨init, c, hrest⟩
  · rw [hrest, List.append_nil] at h
    by_cases hshort : lead ≠ [] ∨ rest ≠ []
    · obtain ⟨c, hc⟩ := exists_leadComponents_eq_singleton rest hshort
      rw [hc] at h
      exact (List.append_singleton_inj.mp (h.symm.trans (List.nil_append _).symm)).1
    · rw [not_or, not_not, not_not] at hshort
      rw [hshort.1, hshort.2] at h
      simp [leadComponents] at h
  · rw [List.concat_eq_append] at hrest
    rw [hrest, ← List.append_assoc] at h
    obtain ⟨-, rfl⟩ := List.append_singleton_inj.mp h
    have hmem : Component.here ∈ rest.filterMap component? := by
      rw [hrest]
      simp
    obtain ⟨segment, -, hsegment⟩ := List.mem_filterMap.mp hmem
    exact absurd hsegment component?_ne_here

theorem exists_concat_of_within {root p : Path} {above : List Component} {raw : RawText}
    (h : within root p.components = above ++ [.name raw]) :
    ∃ above', p.components = above' ++ [.name raw] := by
  unfold within at h
  split at h
  · exact ⟨above, h⟩
  · rcases List.eq_nil_or_concat p.components with hnil | ⟨init, c, hc⟩
    · rw [hnil] at h
      simp at h
    · rw [List.concat_eq_append] at hc
      by_cases hhere : c = .here
      · subst hhere
        rw [hc, eq_nil_of_components_eq_concat_here hc] at h
        simp at h
      · rw [hc, List.filter_append] at h
        have hlast : [c].filter (· ≠ .here) = [c] := by simp [hhere]
        rw [hlast] at h
        obtain ⟨-, rfl⟩ := List.append_singleton_inj.mp h
        exact ⟨init, hc⟩

theorem hasEnding_within_iff {p : Path} {ending : String} (root : Path) :
    HasEnding ending (within root p.components) ↔ HasEnding ending p.components := by
  constructor
  · rintro ⟨above, raw, stem, heq, hshown⟩
    obtain ⟨above', heq⟩ := exists_concat_of_within heq
    exact ⟨above', raw, stem, heq, hshown⟩
  · rintro ⟨above, raw, stem, heq, hshown⟩
    rw [heq, within_concat_name]
    exact ⟨_, raw, stem, rfl, hshown⟩

end Scaffold.Path
