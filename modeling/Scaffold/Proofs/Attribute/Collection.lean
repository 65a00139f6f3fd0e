import Mathlib.Data.List.Forall2
import Scaffold.Attribute.Set
import Scaffold.Proofs.Attribute.Specification
/-!
# Sets of attributes as collections

However attributes are added one after another, a set holds those
that are not reserved and whose name none before them had, in their order.
-/

namespace Scaffold

namespace AttributeSet

open Attribute

theorem contains_iff {set : AttributeSet} {name : String} :
    set.contains name = true ↔
      normalize name ∈ reservedNames ∨ ∃ a ∈ set.toList, a.normalized = normalize name := by
  simp [contains, isReservedName_iff]

/-! ## One insertion -/

theorem tryInsert_fst_eq_true_iff {set : AttributeSet} {a : Attribute} :
    (set.tryInsert a).1 = true ↔ (set.tryInsert a).2.toList = set.toList ++ [a] := by
  rw [tryInsert]
  split <;> simp

theorem tryInsert_fst_eq_false_iff {set : AttributeSet} {a : Attribute} :
    (set.tryInsert a).1 = false ↔ (set.tryInsert a).2 = set := by
  rw [tryInsert]
  split
  · simp
  · obtain ⟨attributes⟩ := set
    simp

/-- A reserved name counts as present, so the mark of an attribute alone never decides. -/
theorem toList_insert {a : Attribute} (h : a.isReserved = isReservedName a.name)
    (set : AttributeSet) :
    (set.insert a).toList = set.toList ++ if set.contains a.name then [] else [a] := by
  have hmark : (a.isReserved || set.contains a.name) = set.contains a.name := by
    rw [h, contains, ← Bool.or_assoc, Bool.or_self]
  rw [insert, tryInsert, hmark]
  cases set.contains a.name <;> simp

theorem toList_prefix_insert (set : AttributeSet) (a : Attribute) :
    set.toList <+: (set.insert a).toList := by
  rw [insert, tryInsert]
  split
  · exact List.prefix_refl _
  · exact List.prefix_append _ _

/-! ## Insertions one after another -/

/-- Whether an attribute is kept after others: its name is neither reserved nor that of one of
them. -/
def isKept (before : List Attribute) (a : Attribute) : Bool :=
  !isReservedName a.name && before.all fun b => b.normalized ≠ a.normalized

/-- The attributes of a list that are not reserved and whose name no attribute before them has. -/
def firsts (given : List Attribute) : List Attribute :=
  (given.zipIdx.filter fun entry => isKept (given.take entry.2) entry.1).map (·.1)

theorem isKept_iff {before : List Attribute} {a : Attribute} :
    isKept before a = true ↔
      a.normalized ∉ reservedNames ∧ ∀ b ∈ before, b.normalized ≠ a.normalized := by
  have hmark : isReservedName a.name = true ↔ a.normalized ∈ reservedNames := isReservedName_iff
  rw [isKept, Bool.and_eq_true, Bool.not_eq_true', Bool.eq_false_iff, ne_eq, hmark]
  simp

theorem firsts_concat (given : List Attribute) (a : Attribute) :
    firsts (given ++ [a]) = firsts given ++ if isKept given a then [a] else [] := by
  have hbefore :
      (given.zipIdx.filter fun entry => isKept ((given ++ [a]).take entry.2) entry.1) =
        given.zipIdx.filter fun entry => isKept (given.take entry.2) entry.1 := by
    apply List.filter_congr
    intro entry hentry
    have hlength : entry.2 ≤ given.length := by
      have hbounds := List.mem_zipIdx hentry
      omega
    rw [List.take_append_of_le_length hlength]
  have hlast : (given ++ [a]).take (0 + given.length) = given := by simp
  rw [firsts, List.zipIdx_append, List.filter_append, hbefore, List.map_append, firsts,
    List.zipIdx_singleton, List.filter_singleton, hlast]
  cases isKept given a <;> rfl

theorem mem_of_mem_firsts {given : List Attribute} {a : Attribute} (h : a ∈ firsts given) :
    a ∈ given := by
  obtain ⟨⟨b, i⟩, hmem, rfl⟩ := List.mem_map.mp h
  exact List.fst_mem_of_mem_zipIdx (List.mem_filter.mp hmem).1

/-- The first attribute of each name is kept. -/
theorem exists_mem_firsts_iff {given : List Attribute} {name : String} (h : name ∉ reservedNames) :
    (∃ a ∈ firsts given, a.normalized = name) ↔ ∃ a ∈ given, a.normalized = name := by
  constructor
  · rintro ⟨a, ha, hname⟩
    exact ⟨a, mem_of_mem_firsts ha, hname⟩
  · induction given using List.reverseRecOn with
    | nil => simp
    | append_singleton given b ih =>
        rintro ⟨a, ha, hname⟩
        by_cases hearlier : ∃ c ∈ given, c.normalized = name
        · obtain ⟨c, hc, hcname⟩ := ih hearlier
          exact ⟨c, by rw [firsts_concat]; exact List.mem_append_left _ hc, hcname⟩
        · have hab : a = b := by
            rcases List.mem_append.mp ha with ha | ha
            · exact absurd ⟨a, ha, hname⟩ hearlier
            · exact List.mem_singleton.mp ha
          have hkept : isKept given b = true := by
            rw [isKept_iff, ← hab, hname]
            exact ⟨h, fun c hc hcname => hearlier ⟨c, hc, hcname⟩⟩
          exact ⟨b, by rw [firsts_concat, hkept]; simp, hab ▸ hname⟩

theorem not_reserved_of_mem_firsts {given : List Attribute} {a : Attribute}
    (h : a ∈ firsts given) : a.normalized ∉ reservedNames := by
  obtain ⟨⟨b, i⟩, hmem, rfl⟩ := List.mem_map.mp h
  exact (isKept_iff.mp (List.mem_filter.mp hmem).2).1

theorem nodup_firsts (given : List Attribute) :
    ((firsts given).map (·.normalized)).Nodup := by
  induction given using List.reverseRecOn with
  | nil => exact List.nodup_nil
  | append_singleton given a ih =>
      rw [firsts_concat]
      cases hkept : isKept given a with
      | false => simpa using ih
      | true =>
          have hfresh : a.normalized ∉ (firsts given).map (·.normalized) := by
            intro hmem
            obtain ⟨b, hb, hname⟩ := List.mem_map.mp hmem
            exact (isKept_iff.mp hkept).2 b (mem_of_mem_firsts hb) hname
          rw [if_pos rfl, List.map_append, List.map_singleton]
          exact List.nodup_append.mpr ⟨ih, List.pairwise_singleton _ _, fun x hx y hy hxy =>
            hfresh (List.mem_singleton.mp hy ▸ hxy ▸ hx)⟩

theorem firsts_eq_self {given : List Attribute} (hnodup : (given.map (·.normalized)).Nodup)
    (hreserved : ∀ a ∈ given, a.normalized ∉ reservedNames) : firsts given = given := by
  induction given using List.reverseRecOn with
  | nil => rfl
  | append_singleton given a ih =>
      rw [List.map_append, List.map_singleton] at hnodup
      obtain ⟨hgiven, -, happart⟩ := List.nodup_append.mp hnodup
      have hkept : isKept given a = true := by
        refine isKept_iff.mpr ⟨hreserved a (by simp), fun b hb hname => ?_⟩
        exact happart _ (List.mem_map_of_mem hb) _ (List.mem_singleton_self _) hname
      rw [firsts_concat, hkept, ih hgiven fun b hb => hreserved b (List.mem_append_left _ hb)]
      rfl

theorem toList_foldl_insert {given : List Attribute}
    (h : ∀ a ∈ given, a.isReserved = isReservedName a.name) :
    (given.foldl insert empty).toList = firsts given := by
  induction given using List.reverseRecOn with
  | nil => rfl
  | append_singleton given a ih =>
      obtain ⟨hgiven, ha⟩ := List.forall_mem_append.mp h
      have ih := ih hgiven
      have hpresent : (given.foldl insert empty).contains a.name = !isKept given a := by
        rw [Bool.eq_iff_iff, Bool.not_eq_true', Bool.eq_false_iff, ne_eq, isKept_iff, contains_iff,
          ih]
        by_cases hreserved : a.normalized ∈ reservedNames
        · exact iff_of_true (.inl hreserved) fun h => h.1 hreserved
        · have hsame := @exists_mem_firsts_iff given _ hreserved
          have hname : normalize a.name = a.normalized := rfl
          rw [hname, hsame]
          simp [hreserved]
      rw [List.foldl_concat, toList_insert (ha a (List.mem_singleton_self a)), ih, firsts_concat,
        hpresent]
      cases isKept given a <;> rfl

theorem toList_prefix_foldl_insert (set : AttributeSet) (given : List Attribute) :
    set.toList <+: (given.foldl insert set).toList := by
  induction given generalizing set with
  | nil => exact List.prefix_refl _
  | cons a given ih =>
      exact (toList_prefix_insert set a).trans (ih (set.insert a))

/-! ## Sets of specifications -/

theorem go_append (set : AttributeSet) (specs more : List String) :
    ofSpecs.go set (specs ++ more) =
      match ofSpecs.go set specs with
      | .ok next => ofSpecs.go next more
      | .error failure => .error failure := by
  induction specs generalizing set with
  | nil => rfl
  | cons spec specs ih =>
      rw [List.cons_append, ofSpecs.go, ofSpecs.go]
      cases parse spec with
      | error failure => rfl
      | ok a => exact ih (set.insert a)

theorem go_eq_ok_iff {set out : AttributeSet} {specs : List String} :
    ofSpecs.go set specs = .ok out ↔
      ∃ given, List.Forall₂ (fun spec a => parse spec = .ok a) specs given ∧
        out = given.foldl insert set := by
  induction specs generalizing set with
  | nil =>
      rw [ofSpecs.go]
      constructor
      · intro h
        exact ⟨[], .nil, (Except.ok.inj h).symm⟩
      · rintro ⟨given, hgiven, rfl⟩
        obtain _ | _ := hgiven
        rfl
  | cons spec specs ih =>
      rw [ofSpecs.go]
      constructor
      · intro h
        cases hspec : parse spec with
        | error failure =>
            rw [hspec] at h
            cases h
        | ok a =>
            rw [hspec] at h
            obtain ⟨given, hgiven, rfl⟩ := ih.mp h
            exact ⟨a :: given, .cons hspec hgiven, rfl⟩
      · rintro ⟨given, hgiven, rfl⟩
        obtain _ | ⟨hspec, hrest⟩ := hgiven
        rw [hspec]
        exact ih.mpr ⟨_, hrest, rfl⟩

theorem exists_go_eq_ok {specs : List String} (h : ∀ spec ∈ specs, ∃ a, parse spec = .ok a)
    (set : AttributeSet) : ∃ out, ofSpecs.go set specs = .ok out := by
  induction specs generalizing set with
  | nil => exact ⟨set, rfl⟩
  | cons spec specs ih =>
      obtain ⟨⟨a, hspec⟩, hspecs⟩ := List.forall_mem_cons.mp h
      obtain ⟨out, hout⟩ := ih hspecs (set.insert a)
      exact ⟨out, by rw [ofSpecs.go, hspec]; exact hout⟩

theorem go_eq_error_iff {set : AttributeSet} {specs : List String} {failure : Failure} :
    ofSpecs.go set specs = .error failure ↔
      ∃ before spec after, specs = before ++ spec :: after ∧
        (∀ earlier ∈ before, ∃ a, parse earlier = .ok a) ∧ parse spec = .error failure := by
  constructor
  · intro h
    induction specs generalizing set with
    | nil => cases h
    | cons spec specs ih =>
        rw [ofSpecs.go] at h
        cases hspec : parse spec with
        | error cause =>
            rw [hspec] at h
            obtain rfl := Except.error.inj h
            exact ⟨[], spec, specs, rfl, by simp, hspec⟩
        | ok a =>
            rw [hspec] at h
            obtain ⟨before, culprit, after, rfl, hearlier, hculprit⟩ := ih h
            exact ⟨spec :: before, culprit, after, rfl,
              List.forall_mem_cons.mpr ⟨⟨a, hspec⟩, hearlier⟩, hculprit⟩
  · rintro ⟨before, spec, after, rfl, hearlier, hspec⟩
    obtain ⟨next, hnext⟩ := exists_go_eq_ok hearlier set
    rw [go_append, hnext]
    dsimp only
    rw [ofSpecs.go, hspec]

theorem exists_ofSpecs_eq_error_iff {specs : List String} :
    (∃ failure, ofSpecs specs = .error failure) ↔
      ∃ spec ∈ specs, ∃ failure, parse spec = .error failure := by
  constructor
  · rintro ⟨failure, h⟩
    obtain ⟨before, spec, after, rfl, -, hspec⟩ := go_eq_error_iff.mp h
    exact ⟨spec, by simp, failure, hspec⟩
  · rintro ⟨spec, hmem, failure, hspec⟩
    obtain ⟨before, after, rfl⟩ := List.append_of_mem hmem
    rw [ofSpecs, go_append]
    cases ofSpecs.go empty before with
    | error cause => exact ⟨cause, rfl⟩
    | ok next =>
        refine ⟨failure, ?_⟩
        dsimp only
        rw [ofSpecs.go, hspec]

theorem readable_of_forall₂ {specs : List String} {given : List Attribute}
    (h : List.Forall₂ (fun spec a => parse spec = .ok a) specs given) :
    ∀ a ∈ given, a.Readable := by
  have hread : List.Forall₂ (fun a spec => a.Readable ∧ parse spec = .ok a) given specs :=
    List.Forall₂.flip (h.imp fun spec a hspec => ⟨readable_of_parse hspec, hspec⟩)
  exact ((List.forall₂_and_left _ _).mp hread).1

theorem ofSpecs_eq_ok_iff {set : AttributeSet} {specs : List String} :
    ofSpecs specs = .ok set ↔
      ∃ given, List.Forall₂ (fun spec a => parse spec = .ok a) specs given ∧
        set.toList = firsts given := by
  rw [ofSpecs, go_eq_ok_iff]
  refine exists_congr fun given => and_congr_right fun hgiven => ?_
  rw [← toList_foldl_insert fun a ha => (readable_of_forall₂ hgiven a ha).mark_eq]
  obtain ⟨attributes⟩ := set
  constructor
  · intro h
    rw [← h]
  · intro h
    rw [show attributes = _ from h]

theorem readable_of_mem {set : AttributeSet} {specs : List String} (h : ofSpecs specs = .ok set)
    {a : Attribute} (ha : a ∈ set.toList) : a.Readable ∧ a.normalized ∉ reservedNames := by
  obtain ⟨given, hgiven, hset⟩ := ofSpecs_eq_ok_iff.mp h
  rw [hset] at ha
  exact ⟨readable_of_forall₂ hgiven a (mem_of_mem_firsts ha), not_reserved_of_mem_firsts ha⟩

theorem ofSpecs_map_toText {given : List Attribute} (h : ∀ a ∈ given, a.Readable) :
    ofSpecs ((firsts given).map toText) = .ok ⟨firsts given⟩ := by
  have hread : List.Forall₂ (fun spec a => parse spec = .ok a) ((firsts given).map toText)
      (firsts given) := by
    rw [List.forall₂_map_left_iff, List.forall₂_same]
    exact fun a ha => parse_toText (h a (mem_of_mem_firsts ha))
  refine ofSpecs_eq_ok_iff.mpr ⟨firsts given, hread, ?_⟩
  exact (firsts_eq_self (nodup_firsts given) fun a ha => not_reserved_of_mem_firsts ha).symm

theorem exists_prefix_of_ofSpecs_append {specs more : List String} {larger : AttributeSet}
    (h : ofSpecs (specs ++ more) = .ok larger) :
    ∃ smaller, ofSpecs specs = .ok smaller ∧ smaller.toList <+: larger.toList := by
  rw [ofSpecs, go_append] at h
  cases hsmaller : ofSpecs.go empty specs with
  | error failure =>
      rw [hsmaller] at h
      cases h
  | ok smaller =>
      rw [hsmaller] at h
      obtain ⟨given, -, rfl⟩ := go_eq_ok_iff.mp h
      exact ⟨smaller, hsmaller, toList_prefix_foldl_insert smaller given⟩

/-- Attributes that were read, added to the empty set one after another: the set holds the first one
of each name that is not reserved, an insertion says whether it changed the set, and a name counts
as present if it is reserved or held. Sets of specifications are sets of this kind; the first
specification that cannot be read decides the failure, a set is read again from what is written for
it, and specifications at the end only add to it. -/
theorem insertions_keep_firsts (given : List Attribute)
    (hread : ∀ a ∈ given, ∃ spec, parse spec = .ok a) :
    let set := given.foldl insert empty
    set.toList = firsts given ∧
    (∀ a, ((set.tryInsert a).1 = true ↔ (set.tryInsert a).2.toList = set.toList ++ [a]) ∧
      ((set.tryInsert a).1 = false ↔ (set.tryInsert a).2 = set) ∧
      (set.tryInsert a).2 = set.insert a) ∧
    (set.toList.map (·.normalized)).Nodup ∧
    (∀ a ∈ set.toList, a.normalized ∉ reservedNames) ∧
    (∀ name, set.contains name = true ↔
      normalize name ∈ reservedNames ∨ ∃ a ∈ set.toList, a.normalized = normalize name) ∧
    ofSpecs (set.toList.map toText) = .ok set ∧
    (∀ specs, (∃ failure, ofSpecs specs = .error failure) ↔
      ∃ spec ∈ specs, ∃ failure, parse spec = .error failure) ∧
    (∀ specs failure, ofSpecs specs = .error failure ↔
      ∃ before spec after, specs = before ++ spec :: after ∧
        (∀ earlier ∈ before, ∃ a, parse earlier = .ok a) ∧ parse spec = .error failure) ∧
    (∀ specs out, ofSpecs specs = .ok out ↔
      ∃ attributes, List.Forall₂ (fun spec a => parse spec = .ok a) specs attributes ∧
        out.toList = firsts attributes) ∧
    ∀ specs more larger, ofSpecs (specs ++ more) = .ok larger →
      ∃ smaller, ofSpecs specs = .ok smaller ∧ smaller.toList <+: larger.toList := by
  intro set
  have hreadable : ∀ a ∈ given, a.Readable := by
    intro a ha
    obtain ⟨spec, hspec⟩ := hread a ha
    exact readable_of_parse hspec
  have hset : set.toList = firsts given :=
    toList_foldl_insert fun a ha => (hreadable a ha).mark_eq
  have hagain : ofSpecs (set.toList.map toText) = .ok set := by
    rw [hset, ofSpecs_map_toText hreadable, ← hset]
  refine ⟨hset, ?_, ?_, ?_, fun name => contains_iff, hagain,
    fun specs => exists_ofSpecs_eq_error_iff, fun specs failure => go_eq_error_iff,
    fun specs out => ofSpecs_eq_ok_iff, fun specs more larger => exists_prefix_of_ofSpecs_append⟩
  · exact fun a => ⟨tryInsert_fst_eq_true_iff, tryInsert_fst_eq_false_iff, rfl⟩
  · rw [hset]
    exact nodup_firsts given
  · rw [hset]
    exact fun a ha => not_reserved_of_mem_firsts ha

/-- Of four attributes one is reserved and one has the name of another in a different style. -/
theorem insertions_of_four :
    let given : List Attribute :=
      [⟨"FirstName", "string", false⟩, ⟨"Email", "text", true⟩, ⟨"first-name", "nulls.text", false⟩,
        ⟨"age", "int?", false⟩]
    (∀ a ∈ given, ∃ spec, parse spec = .ok a) ∧
    (given.foldl insert empty).toList = [⟨"FirstName", "string", false⟩, ⟨"age", "int?", false⟩] ∧
    ofSpecs ["FirstName:string", "age:int?"] = .ok (given.foldl insert empty) := by
  intro given
  have hread : ∀ a ∈ given, ∃ spec, parse spec = .ok a := by
    simp only [given, List.forall_mem_cons]
    refine ⟨⟨" FirstName", ?_⟩, ⟨"Email : text", ?_⟩, ⟨"first-name:nulls.text", ?_⟩,
      ⟨"age:int?\n", ?_⟩, List.forall_mem_nil _⟩
    all_goals decide +kernel
  obtain ⟨hset, -, -, -, -, hagain, -⟩ := insertions_keep_firsts given hread
  have hfirsts : firsts given = [⟨"FirstName", "string", false⟩, ⟨"age", "int?", false⟩] := by
    decide +kernel
  rw [hfirsts] at hset
  rw [hset] at hagain
  exact ⟨hread, hset, hagain⟩

end AttributeSet

end Scaffold
