import Scaffold.Path.Basic
/-!
# The order of paths

It is a total order of their components: two paths are equal in it exactly when they have the same
components, however they are written.
-/

namespace Scaffold.Path

theorem Component.compare_eq_iff {a b : Component} : a.compare b = .eq ↔ a = b := by
  have hraw (s t : RawText) : Ord.compare s.octets t.octets = .eq ↔ s = t := by
    rw [Std.LawfulEqOrd.compare_eq_iff_eq, RawText.mk.injEq]
  have hrank (m n : Nat) : Ord.compare m n = .eq ↔ m = n := Std.LawfulEqOrd.compare_eq_iff_eq
  cases a <;> cases b
  case name.name s t => exact (hraw s t).trans (by simp)
  all_goals exact (hrank _ _).trans (by simp [rank])

theorem compareComponents_eq_iff {as bs : List Component} :
    compareComponents as bs = .eq ↔ as = bs := by
  induction as generalizing bs with
  | nil => cases bs <;> simp [compareComponents]
  | cons a as ih =>
      cases bs with
      | nil => simp [compareComponents]
      | cons b bs =>
          rw [compareComponents, Ordering.then_eq_eq, Component.compare_eq_iff, ih, List.cons.injEq]

theorem compare_eq_iff {p q : Path} : p.compare q = .eq ↔ p.components = q.components :=
  compareComponents_eq_iff

@[simp] theorem same_iff {p q : Path} : p.same q = true ↔ p.components = q.components := by
  simp [same]

theorem same_congr_left {p p' : Path} (h : p.components = p'.components) (q : Path) :
    p.same q = p'.same q := by
  rw [same, same, h]

theorem compareComponents_append_left (above as bs : List Component) :
    compareComponents (above ++ as) (above ++ bs) = compareComponents as bs := by
  induction above with
  | nil => rfl
  | cons c above ih =>
      rw [List.cons_append, List.cons_append, compareComponents,
        Component.compare_eq_iff.mpr rfl, ih]
      rfl

/-- Paths in one directory are ordered as their last names. -/
theorem compare_concat {p q : Path} {above : List Component} {name other : RawText}
    (hp : p.components = above ++ [.name name]) (hq : q.components = above ++ [.name other])
    (h : Ord.compare name.octets other.octets = .lt) : p.compare q = .lt := by
  have hname : Component.compare (.name name) (.name other) = .lt := h
  rw [compare, hp, hq, compareComponents_append_left, compareComponents, hname]
  rfl

/-! ## Transitivity -/

theorem Component.compare_eq_compareLex :
    Component.compare = compareLex (compareOn Component.rank) (compareOn (·.raw.octets)) := by
  funext a b
  cases a <;> cases b <;> rfl

instance : Std.TransCmp Component.compare := by
  rw [Component.compare_eq_compareLex]
  infer_instance

theorem compareComponents_eq_compareLex :
    compareComponents = List.compareLex Component.compare := by
  funext as bs
  induction as generalizing bs with
  | nil => cases bs <;> rfl
  | cons a as ih =>
      cases bs with
      | nil => rfl
      | cons b bs => rw [compareComponents, List.compareLex_cons_cons, ih]

instance : Std.TransCmp compareComponents := by
  rw [compareComponents_eq_compareLex]
  infer_instance

instance : Std.TransCmp Path.compare where
  eq_swap {p q} := @Std.OrientedCmp.eq_swap _ compareComponents _ p.components q.components
  isLE_trans {p q r} :=
    @Std.TransCmp.isLE_trans _ compareComponents _ p.components q.components r.components

theorem isLE_compare_total (p q : Path) :
    ((p.compare q).isLE || (q.compare p).isLE) = true := by
  rw [@Std.OrientedCmp.eq_swap _ Path.compare _ q p]
  cases p.compare q <;> rfl

end Scaffold.Path
