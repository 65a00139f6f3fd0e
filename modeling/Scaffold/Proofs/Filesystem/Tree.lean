import Mathlib.Data.List.Nodup
import Scaffold.Filesystem.Tree
import Scaffold.Proofs.Path.Order
/-!
# The order of listed files

The order in which the files of a tree are listed. Files of different paths have only one order, so
it does not matter in which order they are given.
-/

namespace Scaffold.Draft

theorem sort_of_pairwise {drafts : List Draft}
    (h : (drafts.map (·.path.path.components)).Pairwise fun p q =>
      (Path.compareComponents p q).isLE) : sort drafts = drafts :=
  List.mergeSort_of_pairwise (List.pairwise_map.mp h)

theorem sort_perm (drafts : List Draft) : (sort drafts).Perm drafts :=
  List.mergeSort_perm _ _

theorem pairwise_sort (drafts : List Draft) :
    (sort drafts).Pairwise fun a b => (a.path.compare b.path).isLE = true := by
  apply List.pairwise_mergeSort
  · intro a b c hab hbc
    exact @Std.TransCmp.isLE_trans _ Path.compare _ _ _ _ hab hbc
  · intro a b
    exact Path.isLE_compare_total a.path.path b.path.path

section

variable {drafts : List Draft} (h : (drafts.map (·.path.path.components)).Nodup)

include h

theorem pairwise_lt_sort : (sort drafts).Pairwise fun a b => a.path.compare b.path = .lt := by
  have hnodup : ((sort drafts).map (·.path.path.components)).Nodup :=
    ((sort_perm drafts).map _).nodup_iff.mpr h
  refine (pairwise_sort drafts).imp₂ ?_ (List.pairwise_map.mp hnodup)
  intro a b hle hne
  rcases Ordering.isLE_iff_eq_lt_or_eq_eq.mp hle with hlt | heq
  · exact hlt
  · exact absurd (Path.compare_eq_iff.mp heq) hne

theorem sort_eq_of_perm {others : List Draft} (hperm : drafts.Perm others) :
    sort drafts = sort others := by
  refine List.Perm.eq_of_pairwise ?_ (pairwise_sort drafts) (pairwise_sort others)
    ((sort_perm drafts).trans (hperm.trans (sort_perm others).symm))
  intro a b ha hb hab hba
  have heq : a.path.path.compare b.path.path = .eq := Std.OrientedCmp.isLE_antisymm hab hba
  exact List.inj_on_of_nodup_map h ((sort_perm drafts).mem_iff.mp ha)
    (hperm.mem_iff.mpr ((sort_perm others).mem_iff.mp hb)) (Path.compare_eq_iff.mp heq)

end

end Scaffold.Draft
