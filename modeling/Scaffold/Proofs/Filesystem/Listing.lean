import Scaffold.Filesystem.Tree
import Scaffold.Proofs.Path.Slash
/-!
# Listing a tree

The files that listing a tree finds. A tree that a disk can hold has each of its regular files
listed exactly once, whether the entries are taken in their order or the files of a directory
before its subdirectories, and the links in it make no difference.
-/

namespace Scaffold

structure IsEntryName (name : String) : Prop where
  isName : Path.IsName name
  slash_notMem : '/' ∉ name.toList

namespace Entry

mutual

/-- A tree that a disk can hold: the entries of a directory have different names, and none of the
names has a meaning of its own in paths. -/
def WellFormed : Entry → Prop
  | .directory entries => (entries.map (·.1)).Nodup ∧ WellFormedAll entries
  | _ => True

def WellFormedAll : List (String × Entry) → Prop
  | [] => True
  | (name, entry) :: entries => IsEntryName name ∧ entry.WellFormed ∧ WellFormedAll entries

end

mutual

/-- The tree without its links. -/
def withoutLinks : Entry → Entry
  | .directory entries => .directory (withoutLinksAll entries)
  | entry => entry

def withoutLinksAll : List (String × Entry) → List (String × Entry)
  | [] => []
  | (_, .link _) :: entries => withoutLinksAll entries
  | (name, entry) :: entries => (name, entry.withoutLinks) :: withoutLinksAll entries

end

theorem wellFormed_of_mem {entries : List (String × Entry)} (h : WellFormedAll entries)
    {name : String} {entry : Entry} (hmem : (name, entry) ∈ entries) :
    IsEntryName name ∧ entry.WellFormed := by
  induction entries with
  | nil => cases hmem
  | cons first entries ih =>
      obtain ⟨hname, hentry, hrest⟩ := h
      rcases List.mem_cons.mp hmem with rfl | hmem
      · exact ⟨hname, hentry⟩
      · exact ih hrest hmem

/-! ## Entries at the end of names -/

theorem at?_directory_cons_eq_some_iff {entries : List (String × Entry)}
    (h : (entries.map (·.1)).Nodup) {name : String} {names : List String} {found : Entry} :
    (Entry.directory entries).at? (name :: names) = some found ↔
      ∃ entry, (name, entry) ∈ entries ∧ entry.at? names = some found := by
  rw [at?, Option.bind_eq_some_iff]
  refine exists_congr fun entry => and_congr_left fun _ => ?_
  rw [List.lookup_eq_some_iff]
  constructor
  · rintro ⟨before, after, rfl, -⟩
    simp
  · intro hmem
    obtain ⟨before, after, rfl⟩ := List.append_of_mem hmem
    refine ⟨before, after, rfl, fun other hother => ?_⟩
    rw [List.map_append, List.map_cons] at h
    have hapart := (List.nodup_append.mp h).2.2 other.1 (List.mem_map_of_mem hother) name
      List.mem_cons_self
    simpa using hapart.symm

theorem isEntryName_of_at? {names : List String} {entry found : Entry} (h : entry.WellFormed)
    (hfound : entry.at? names = some found) : ∀ name ∈ names, IsEntryName name := by
  induction names generalizing entry with
  | nil => exact List.forall_mem_nil _
  | cons name names ih =>
      cases entry with
      | file content => cases hfound
      | link target => cases hfound
      | directory entries =>
          obtain ⟨inner, hmem, hinner⟩ := (at?_directory_cons_eq_some_iff h.1).mp hfound
          obtain ⟨hname, hwell⟩ := wellFormed_of_mem h.2 hmem
          exact List.forall_mem_cons.mpr ⟨hname, ih hwell hinner⟩

/-! ## The walk -/

mutual

/-- The walk finds the files that names lead to. -/
theorem mem_walk_iff (names : List String) (found : List String) (content : ByteArray) :
    (entry : Entry) → entry.WellFormed → ((found, content) ∈ entry.walk names ↔
      ∃ rest, found = names ++ rest ∧ entry.at? rest = some (.file content))
  | .file own, _ => by
      rw [walk, List.mem_singleton, Prod.mk.injEq]
      constructor
      · rintro ⟨rfl, rfl⟩
        exact ⟨[], (List.append_nil _).symm, rfl⟩
      · rintro ⟨rest, rfl, hrest⟩
        cases rest with
        | nil =>
            obtain rfl := Entry.file.inj (Option.some.inj hrest)
            exact ⟨List.append_nil _, rfl⟩
        | cons name rest => cases hrest
  | .link target, _ => by
      rw [walk]
      refine iff_of_false List.not_mem_nil ?_
      rintro ⟨rest, -, hrest⟩
      cases rest <;> cases hrest
  | .directory entries, h => by
      rw [walk, mem_walkAll_iff names found content entries h.2]
      constructor
      · rintro ⟨name, entry, rest, hmem, rfl, hrest⟩
        exact ⟨name :: rest, rfl, (at?_directory_cons_eq_some_iff h.1).mpr ⟨entry, hmem, hrest⟩⟩
      · rintro ⟨rest, rfl, hrest⟩
        cases rest with
        | nil => cases hrest
        | cons name rest =>
            obtain ⟨entry, hmem, hentry⟩ := (at?_directory_cons_eq_some_iff h.1).mp hrest
            exact ⟨name, entry, rest, hmem, rfl, hentry⟩

theorem mem_walkAll_iff (names : List String) (found : List String) (content : ByteArray) :
    (entries : List (String × Entry)) → WellFormedAll entries →
      ((found, content) ∈ walkAll names entries ↔ ∃ name entry rest, (name, entry) ∈ entries ∧
        found = names ++ name :: rest ∧ entry.at? rest = some (.file content))
  | [], _ => by simp [walkAll]
  | (name, entry) :: entries, h => by
      rw [walkAll, List.mem_append, mem_walk_iff (names ++ [name]) found content entry h.2.1,
        mem_walkAll_iff names found content entries h.2.2]
      constructor
      · rintro (⟨rest, rfl, hrest⟩ | ⟨other, inner, rest, hmem, rfl, hrest⟩)
        · exact ⟨name, entry, rest, List.mem_cons_self, by simp, hrest⟩
        · exact ⟨other, inner, rest, List.mem_cons_of_mem _ hmem, rfl, hrest⟩
      · rintro ⟨other, inner, rest, hmem, rfl, hrest⟩
        rcases List.mem_cons.mp hmem with heq | hmem
        · obtain ⟨rfl, rfl⟩ := Prod.mk.inj heq
          exact .inl ⟨rest, by simp, hrest⟩
        · exact .inr ⟨other, inner, rest, hmem, rfl, hrest⟩

end

theorem mem_walk_nil_iff {entry : Entry} (h : entry.WellFormed) {names : List String}
    {content : ByteArray} :
    (names, content) ∈ entry.walk [] ↔ entry.at? names = some (.file content) := by
  rw [mem_walk_iff [] names content entry h]
  simp only [List.nil_append, exists_eq_left']

mutual

theorem nodup_walk (names : List String) :
    (entry : Entry) → entry.WellFormed → ((entry.walk names).map (·.1)).Nodup
  | .file _, _ => List.pairwise_singleton _ _
  | .link _, _ => List.nodup_nil
  | .directory entries, h => nodup_walkAll names entries h.1 h.2

theorem nodup_walkAll (names : List String) :
    (entries : List (String × Entry)) → (entries.map (·.1)).Nodup → WellFormedAll entries →
      ((walkAll names entries).map (·.1)).Nodup
  | [], _, _ => List.nodup_nil
  | (name, entry) :: entries, hnodup, h => by
      obtain ⟨hfresh, hrest⟩ := List.nodup_cons.mp hnodup
      rw [walkAll, List.map_append, List.nodup_append]
      refine ⟨nodup_walk _ entry h.2.1, nodup_walkAll names entries hrest h.2.2, ?_⟩
      intro found hfound other hother heq
      obtain ⟨⟨path, content⟩, hpath, rfl⟩ := List.mem_map.mp hfound
      obtain ⟨⟨path', content'⟩, hpath', rfl⟩ := List.mem_map.mp hother
      obtain ⟨rest, rfl, -⟩ := (mem_walk_iff _ _ _ entry h.2.1).mp hpath
      obtain ⟨name', inner, rest', hmem, rfl, -⟩ := (mem_walkAll_iff _ _ _ entries h.2.2).mp hpath'
      -- the paths of one entry and of another one differ in the first name
      have hsame : name :: rest = name' :: rest' := by
        simpa only [List.append_assoc, List.singleton_append, List.append_cancel_left_eq] using heq
      obtain rfl := (List.cons.inj hsame).1
      exact hfresh (List.mem_map.mpr ⟨_, hmem, rfl⟩)

end

/-! ## The collection -/

mutual

/-- The walk and the collection find the same files. -/
theorem walk_perm_collect (names : List String) :
    (entries : List (String × Entry)) →
      ((Entry.directory entries).walk names).Perm ((Entry.directory entries).collect names)
  | entries => by
      rw [walk, collect]
      exact walkAll_perm_collectAll names entries

theorem walkAll_perm_collectAll (names : List String) :
    (entries : List (String × Entry)) →
      (walkAll names entries).Perm (ownFiles names entries ++ collectAll names entries)
  | [] => .nil
  | (name, .file content) :: entries => by
      rw [walkAll, ownFiles, collectAll, walk, collect]
      · exact (walkAll_perm_collectAll names entries).cons _
      · nofun
  | (name, .link target) :: entries => by
      rw [walkAll, collectAll, walk, collect]
      · exact walkAll_perm_collectAll names entries
      · nofun
  | (name, .directory inner) :: entries => by
      rw [walkAll, collectAll]
      have hinner := walk_perm_collect (names ++ [name]) inner
      have hrest := walkAll_perm_collectAll names entries
      exact (hinner.append hrest).trans (List.perm_append_comm_assoc _ _ _)

end

/-! ## Trees without links -/

theorem ownFiles_withoutLinksAll (names : List String) :
    (entries : List (String × Entry)) →
      ownFiles names (withoutLinksAll entries) = ownFiles names entries
  | [] => rfl
  | (name, .file content) :: entries => by
      rw [withoutLinksAll, withoutLinks, ownFiles, ownFiles, ownFiles_withoutLinksAll names entries]
      all_goals nofun
  | (name, .link target) :: entries => by
      rw [withoutLinksAll, ownFiles, ownFiles_withoutLinksAll names entries]
      nofun
  | (name, .directory inner) :: entries => by
      rw [withoutLinksAll, withoutLinks, ownFiles, ownFiles, ownFiles_withoutLinksAll names entries]
      all_goals nofun

mutual

theorem collect_withoutLinks (names : List String) :
    (entry : Entry) → entry.withoutLinks.collect names = entry.collect names
  | .file content => by rw [withoutLinks]; nofun
  | .link target => by rw [withoutLinks]; nofun
  | .directory entries => by
      rw [withoutLinks, collect, collect, ownFiles_withoutLinksAll,
        collectAll_withoutLinksAll names entries]

theorem collectAll_withoutLinksAll (names : List String) :
    (entries : List (String × Entry)) →
      collectAll names (withoutLinksAll entries) = collectAll names entries
  | [] => rfl
  | (name, .file content) :: entries => by
      rw [withoutLinksAll, collectAll, collectAll, collect_withoutLinks (names ++ [name]),
        collectAll_withoutLinksAll names entries]
      nofun
  | (name, .link target) :: entries => by
      rw [withoutLinksAll, collectAll, collect, collectAll_withoutLinksAll names entries,
        List.nil_append]
      nofun
  | (name, .directory inner) :: entries => by
      rw [withoutLinksAll, collectAll, collectAll, collect_withoutLinks (names ++ [name]),
        collectAll_withoutLinksAll names entries]
      nofun

end

end Entry

end Scaffold
