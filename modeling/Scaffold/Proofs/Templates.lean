import Mathlib.Data.List.Perm.Basic
import Scaffold.Proofs.Filesystem.Listing
import Scaffold.Proofs.Filesystem.Tree
import Scaffold.Proofs.Run.Phases
import Scaffold.Templates
/-!
# Sources of templates

What the sources of templates list. A directory, the same tree inside the program, and its files
in memory give one list: each regular file once, in the order of the paths.
-/

namespace Scaffold

open Text

/-! ## Paths of files in a tree -/

namespace Path

section

variable {names : List String} (h : ∀ name ∈ names, IsEntryName name)

include h

theorem segments_intercalate (hne : names ≠ []) :
    (Path.mk (String.intercalate "/" names)).segments =
      names.map (RawText.ofString · |>.octets) := by
  have hfree : ∀ segment ∈ names.map String.toList, '/' ∉ segment := by
    intro segment hsegment
    obtain ⟨name, hname, rfl⟩ := List.mem_map.mp hsegment
    exact (h name hname).slash_notMem
  rw [segments_ofString, String.toList_intercalate]
  change (fields '/' (['/'].intercalate (names.map String.toList))).map Utf8.encode = _
  rw [← joinWith_eq_intercalate, fields_joinWith (by simpa using hne) hfree, List.map_map]
  rfl

theorem filterMap_component?_map_octets :
    (names.map (RawText.ofString · |>.octets)).filterMap component? = names.map (.name ·) := by
  induction names with
  | nil => rfl
  | cons name names ih =>
      obtain ⟨hname, hnames⟩ := List.forall_mem_cons.mp h
      rw [List.map_cons, List.filterMap_cons_some hname.isName.component?, ih hnames, List.map_cons]

/-- Names of entries joined by slashes are the components of a path. -/
theorem components_intercalate :
    (Path.mk (String.intercalate "/" names)).components = names.map (.name ·) := by
  cases names with
  | nil => rfl
  | cons name names =>
      have hname := (h name List.mem_cons_self).isName
      rw [components_of_segments (segments_intercalate h (List.cons_ne_nil _ _)), leadComponents,
        if_neg hname.ne_nil, if_neg hname.ne_here, hname.component?,
        filterMap_component?_map_octets (List.forall_mem_cons.mp h).2]
      rfl

theorem isAbsolute_intercalate : (Path.mk (String.intercalate "/" names)).isAbsolute = false := by
  rw [isAbsolute_eq_false_iff]
  intro hhead
  obtain ⟨bs, hbs⟩ := List.head?_eq_some_iff.mp hhead
  cases names with
  | nil => cases hbs
  | cons name names =>
      have hsegments := segments_intercalate h (List.cons_ne_nil _ _)
      rw [segments, hbs, fields_cons_separator] at hsegments
      exact (h name List.mem_cons_self).isName.ne_nil (List.cons.inj hsegments).1.symm

end

end Path

/-! ## Drafts of files -/

namespace Draft

theorem ofNames_eq_ok_iff {names : List String} (h : ∀ name ∈ names, IsEntryName name)
    {content : ByteArray} {draft : Draft} :
    ofNames (names, content) = .ok draft ↔
      draft.path.path = ⟨String.intercalate "/" names⟩ ∧ draft.content = content := by
  obtain ⟨⟨path, hrelative⟩, bytes⟩ := draft
  rw [ofNames, ofText, ofRaw, RelativePath.ofRaw, dif_pos (Path.isAbsolute_intercalate h),
    Except.ok.injEq, Draft.mk.injEq, RelativePath.mk.injEq]
  exact and_congr eq_comm eq_comm

theorem components_of_ofNames_eq_ok {names : List String} (h : ∀ name ∈ names, IsEntryName name)
    {content : ByteArray} {draft : Draft} (hdraft : ofNames (names, content) = .ok draft) :
    draft.path.components = names.map (.name ·) := by
  rw [RelativePath.components, ((ofNames_eq_ok_iff h).mp hdraft).1]
  exact Path.components_intercalate h

theorem ofFiles_eq_ok_iff {files : List (List String × ByteArray)} {listed : List Draft} :
    ofFiles files = .ok listed ↔
      ∃ drafts, List.Forall₂ (fun file draft => ofNames file = .ok draft) files drafts ∧
        sort drafts = listed := by
  rw [ofFiles]
  cases hdrafts : files.mapM ofNames with
  | error failure =>
      refine iff_of_false nofun ?_
      rintro ⟨drafts, hfiles, -⟩
      rw [Run.mapM_eq_ok_iff.mpr hfiles] at hdrafts
      cases hdrafts
  | ok drafts =>
      constructor
      · intro h
        exact ⟨drafts, Run.mapM_eq_ok_iff.mp hdrafts, Except.ok.inj h⟩
      · rintro ⟨drafts', hfiles, rfl⟩
        rw [Run.mapM_eq_ok_iff.mpr hfiles] at hdrafts
        rw [Except.ok.inj hdrafts]

theorem mem_iff_of_forall₂ {files : List (List String × ByteArray)} {drafts : List Draft}
    (h : List.Forall₂ (fun file draft => ofNames file = .ok draft) files drafts) {draft : Draft} :
    draft ∈ drafts ↔ ∃ file ∈ files, ofNames file = .ok draft := by
  induction h with
  | nil => simp
  | cons hfirst _ ih =>
      rw [List.mem_cons, ih, List.exists_mem_cons_iff, hfirst, Except.ok.injEq, eq_comm]

section

variable {files : List (List String × ByteArray)}
  (h : ∀ file ∈ files, ∀ name ∈ file.1, IsEntryName name)

include h

theorem exists_forall₂_ofNames :
    ∃ drafts, List.Forall₂ (fun file draft => ofNames file = .ok draft) files drafts := by
  induction files with
  | nil => exact ⟨[], .nil⟩
  | cons file files ih =>
      obtain ⟨hfile, hfiles⟩ := List.forall_mem_cons.mp h
      obtain ⟨drafts, hdrafts⟩ := ih hfiles
      have hrelative := Path.isAbsolute_intercalate hfile
      refine ⟨⟨⟨⟨String.intercalate "/" file.1⟩, hrelative⟩, file.2⟩ :: drafts, ?_⟩
      exact .cons ((ofNames_eq_ok_iff hfile).mpr ⟨rfl, rfl⟩) hdrafts

theorem map_components_of_forall₂ {drafts : List Draft}
    (hdrafts : List.Forall₂ (fun file draft => ofNames file = .ok draft) files drafts) :
    drafts.map (·.path.path.components) = files.map (·.1.map (.name ·)) := by
  induction hdrafts with
  | nil => rfl
  | cons hfirst _ ih =>
      obtain ⟨hfile, hfiles⟩ := List.forall_mem_cons.mp h
      rw [List.map_cons, List.map_cons, ih hfiles]
      exact congrArg (· :: _) (components_of_ofNames_eq_ok hfile hfirst)

theorem nodup_components_of_forall₂ (hnodup : (files.map (·.1)).Nodup) {drafts : List Draft}
    (hdrafts : List.Forall₂ (fun file draft => ofNames file = .ok draft) files drafts) :
    (drafts.map (·.path.path.components)).Nodup := by
  have hname : Function.Injective fun name : String => Path.Component.name name :=
    fun a b heq => RawText.ofString_inj.mp (Path.Component.name.inj heq)
  rw [map_components_of_forall₂ h hdrafts]
  simpa only [List.map_map, Function.comp_def] using hnodup.map hname.list_map

/-- Files of different paths are listed in the same way whatever order they are found in. -/
theorem ofFiles_eq_of_perm (hnodup : (files.map (·.1)).Nodup)
    {others : List (List String × ByteArray)} (hperm : others.Perm files) {drafts : List Draft}
    (hdrafts : List.Forall₂ (fun file draft => ofNames file = .ok draft) files drafts) :
    ofFiles others = .ok (sort drafts) := by
  obtain ⟨found, hfound, hdraftsPerm⟩ := List.perm_comp_forall₂ hperm hdrafts
  refine ofFiles_eq_ok_iff.mpr ⟨found, hfound, ?_⟩
  exact (sort_eq_of_perm (nodup_components_of_forall₂ h hnodup hdrafts) hdraftsPerm.symm).symm

end

/-- The list of the files of a tree: a draft for each regular file, with the path from the root of
the tree and the bytes of the file, in the order of the paths and none twice. -/
structure IsListingOf (tree : Entry) (listed : List Draft) : Prop where
  mem_iff : ∀ draft, draft ∈ listed ↔ ∃ names,
    tree.at? names = some (.file draft.content) ∧
      draft.path.path = ⟨String.intercalate "/" names⟩ ∧
        draft.path.components = names.map (.name ·)
  pairwise_lt : listed.Pairwise fun a b => a.path.compare b.path = .lt

section

variable {tree : Entry} (h : tree.WellFormed)

include h

theorem isEntryName_of_mem_walk {file : List String × ByteArray} (hfile : file ∈ tree.walk []) :
    ∀ name ∈ file.1, IsEntryName name :=
  Entry.isEntryName_of_at? h ((Entry.mem_walk_nil_iff h).mp hfile)

theorem isListingOf_sort {drafts : List Draft}
    (hdrafts : List.Forall₂ (fun file draft => ofNames file = .ok draft) (tree.walk []) drafts) :
    IsListingOf tree (sort drafts) where
  mem_iff draft := by
    rw [(sort_perm drafts).mem_iff, mem_iff_of_forall₂ hdrafts]
    constructor
    · rintro ⟨⟨names, content⟩, hfile, hdraft⟩
      have hnames := isEntryName_of_mem_walk h hfile
      obtain ⟨htext, rfl⟩ := (ofNames_eq_ok_iff hnames).mp hdraft
      exact ⟨names, (Entry.mem_walk_nil_iff h).mp hfile, htext,
        components_of_ofNames_eq_ok hnames hdraft⟩
    · rintro ⟨names, hat, htext, -⟩
      refine ⟨(names, draft.content), (Entry.mem_walk_nil_iff h).mpr hat, ?_⟩
      exact (ofNames_eq_ok_iff (Entry.isEntryName_of_at? h hat)).mpr ⟨htext, rfl⟩
  pairwise_lt := pairwise_lt_sort (nodup_components_of_forall₂
    (fun _ hfile => isEntryName_of_mem_walk h hfile) (Entry.nodup_walk [] tree h) hdrafts)

end

end Draft

namespace TemplateSource

/-- A directory, the tree in it without the links and its files in memory are sources of one list,
which does not depend on the order in which the directory is visited or the files are given. -/
theorem sources_list_alike {disk : Disk} {root : Path} {entries : List (String × Entry)}
    (hroot : disk.entry? root = .ok (.directory entries))
    (hwell : (Entry.directory entries).WellFormed) :
    ∃ listed, Draft.IsListingOf (.directory entries) listed ∧
      (onDisk root).drafts.run disk = (.ok listed, disk) ∧
      (∀ visited : List (List String × ByteArray), visited.Nodup →
        (∀ names content, (names, content) ∈ visited ↔
          (Entry.directory entries).at? names = some (.file content)) →
        Draft.ofFiles visited = .ok listed) ∧
      (∀ (m : Type → Type) [Monad m] (given : List Draft), given.Perm listed →
        (ofDrafts given : TemplateSource m).drafts = pure (.ok listed)) ∧
      ∀ (m : Type → Type) [Monad m] (name : String),
        (ofTree name (Entry.directory entries).withoutLinks : TemplateSource m).drafts =
          pure (.ok listed) := by
  generalize htree : Entry.directory entries = tree at *
  have hnames : ∀ file ∈ tree.walk [], ∀ name ∈ file.1, IsEntryName name :=
    fun _ hfile => Draft.isEntryName_of_mem_walk hwell hfile
  have hnodup := Entry.nodup_walk [] tree hwell
  obtain ⟨drafts, hdrafts⟩ := Draft.exists_forall₂_ofNames hnames
  have hlist : ∀ {files}, files.Perm (tree.walk []) →
      Draft.ofFiles files = .ok (Draft.sort drafts) :=
    fun hperm => Draft.ofFiles_eq_of_perm hnames hnodup hperm hdrafts
  refine ⟨Draft.sort drafts, Draft.isListingOf_sort hwell hdrafts, ?disk, ?visited, ?memory, ?tree⟩
  case disk =>
    change (draftsOnDisk root disk, disk) = _
    subst htree
    rw [draftsOnDisk, hroot]
    exact congrArg (·, disk) (hlist (.refl _))
  case visited =>
    intro visited hvisited hmem
    apply hlist
    rw [List.perm_ext_iff_of_nodup hvisited hnodup.of_map]
    rintro ⟨names, content⟩
    exact (hmem names content).trans (Entry.mem_walk_nil_iff hwell).symm
  case memory =>
    intro m _ given hgiven
    have hcomponents := Draft.nodup_components_of_forall₂ hnames hnodup hdrafts
    have hperm : drafts.Perm given := (Draft.sort_perm drafts).symm.trans hgiven.symm
    rw [ofDrafts, ← Draft.sort_eq_of_perm hcomponents hperm]
  case tree =>
    intro m _ name
    subst htree
    rw [ofTree, Entry.collect_withoutLinks]
    exact congrArg pure (hlist (Entry.walk_perm_collect [] entries).symm)

/-- The file `b` of the directory `a` comes before `a-b`, though a hyphen comes before a slash. -/
theorem directory_before_longer_name :
    let tree : Entry := .directory [("a-b", .file "1".toUTF8),
      ("a", .directory [("up", .link ".."), ("b", .file "2".toUTF8)]), ("c", .link "a")]
    let disk : Disk := ⟨.directory [("templates", tree)], []⟩
    disk.entry? ⟨"/templates"⟩ = .ok tree ∧ tree.WellFormed ∧
      ∃ listed, Draft.IsListingOf tree listed ∧ listed.map (·.path.text) = ["a/b", "a-b"] ∧
        (onDisk ⟨"/templates"⟩).drafts.run disk = (.ok listed, disk) := by
  intro tree disk
  have hroot : disk.entry? ⟨"/templates"⟩ = .ok tree := rfl
  have hwell : tree.WellFormed := by
    simp only [tree, Entry.WellFormed, Entry.WellFormedAll, and_true, true_and]
    refine ⟨by decide, ?_, ?_, ⟨by decide, ?_, ?_⟩, ?_⟩ <;>
      exact ⟨⟨by decide, by decide, by decide⟩, by decide⟩
  obtain ⟨listed, hlisted, hrun, hvisited, -⟩ := sources_list_alike hroot hwell
  have hsorted : Draft.ofFiles (tree.walk []).reverse = .ok
      [⟨⟨⟨"a/b"⟩, rfl⟩, "2".toUTF8⟩, ⟨⟨⟨"a-b"⟩, rfl⟩, "1".toUTF8⟩] :=
    congrArg Except.ok (Draft.sort_of_pairwise (by decide))
  rw [hvisited] at hsorted
  · obtain rfl := Except.ok.inj hsorted
    exact ⟨hroot, hwell, _, hlisted, rfl, hrun⟩
  · exact List.nodup_reverse.mpr (Entry.nodup_walk [] tree hwell).of_map
  · intro names content
    exact List.mem_reverse.trans (Entry.mem_walk_nil_iff hwell)

end TemplateSource

end Scaffold
