import Scaffold.Filesystem.Store
import Scaffold.Proofs.Path.Components
import Scaffold.Proofs.Path.Order
/-!
# Operations of a store

What the operations of a store do to the bytes found at each path and to its directories. In a
store that the operations have built, every file can be written again.
-/

namespace Scaffold.Store

open Scaffold.Path

/-! ## Bytes -/

theorem find?_insertFile (p q : Path) (content : ByteArray) (files : List (Path × ByteArray)) :
    ((insertFile p content files).find? fun file => file.1.same q).map (·.2) =
      if p.same q then some content else (files.find? fun file => file.1.same q).map (·.2) := by
  induction files with
  | nil =>
      rw [insertFile, List.find?_singleton]
      split <;> rfl
  | cons file files ih =>
      rw [insertFile]
      cases horder : p.compare file.1 with
      | lt =>
          simp only [List.find?_cons]
          cases hp : p.same q <;> simp
      | eq =>
          have hsame := same_congr_left (compare_eq_iff.mp horder) q
          simp only [List.find?_cons, hsame]
          cases file.1.same q <;> simp
      | gt =>
          simp only [List.find?_cons]
          cases hfile : file.1.same q with
          | true =>
              -- a file that compares as greater has other components
              have hne : p.same q = false := by
                rw [Bool.eq_false_iff]
                intro hp
                have heq := (same_iff.mp hp).trans (same_iff.mp hfile).symm
                rw [compare_eq_iff.mpr heq] at horder
                cases horder
              simp [hne]
          | false => exact ih

theorem bytes?_congr {p q : Path} (h : p.components = q.components) (store : Store) :
    store.bytes? p = store.bytes? q := by
  simp only [bytes?, same, h]

theorem bytes?_put (store : Store) (p q : Path) (content : ByteArray) :
    (store.put p content).bytes? q = if p.same q then some content else store.bytes? q :=
  find?_insertFile p q content store.files

@[simp] theorem bytes?_createDirs (store : Store) (p q : Path) :
    (store.createDirs p).bytes? q = store.bytes? q := rfl

theorem files_withFile (store : Store) (p : Path) (content : ByteArray) :
    (store.withFile p content).files = insertFile p content store.files := by
  unfold withFile
  split <;> rfl

theorem bytes?_withFile (store : Store) (p q : Path) (content : ByteArray) :
    (store.withFile p content).bytes? q = if p.same q then some content else store.bytes? q := by
  unfold withFile
  split
  · rw [bytes?_put, bytes?_createDirs]
  · exact bytes?_put store p q content

theorem mem_insertFile {p : Path} {content : ByteArray} {files : List (Path × ByteArray)}
    {file : Path × ByteArray} (h : file ∈ insertFile p content files) :
    file.1.components = p.components ∨ file ∈ files := by
  induction files with
  | nil =>
      rw [insertFile, List.mem_singleton] at h
      exact Or.inl (by rw [h])
  | cons first files ih =>
      rw [insertFile] at h
      cases horder : p.compare first.1 with
      | lt =>
          simp only [horder, List.mem_cons] at h
          rcases h with rfl | h
          · exact Or.inl rfl
          · exact Or.inr (List.mem_cons.mpr h)
      | eq =>
          simp only [horder, List.mem_cons] at h
          rcases h with rfl | h
          · exact Or.inl (compare_eq_iff.mp horder).symm
          · exact Or.inr (List.mem_cons_of_mem _ h)
      | gt =>
          simp only [horder, List.mem_cons] at h
          rcases h with rfl | h
          · exact Or.inr (List.mem_cons_self ..)
          · rcases ih h with h | h
            · exact Or.inl h
            · exact Or.inr (List.mem_cons_of_mem _ h)

theorem find?_foldl_insertFile (writes files : List (Path × ByteArray)) (q : Path) :
    ((writes.foldl (fun files write => insertFile write.1 write.2 files) files).find?
        fun file => file.1.same q).map (·.2) =
      ((writes.reverse.find? fun write => write.1.same q).map (·.2)).or
        ((files.find? fun file => file.1.same q).map (·.2)) := by
  -- the first write goes into the files, so it yields to what the others find
  induction writes generalizing files with
  | nil => rfl
  | cons write writes ih =>
      rw [List.foldl_cons, ih, find?_insertFile, List.reverse_cons, List.find?_append]
      cases writes.reverse.find? (fun write => write.1.same q) with
      | some last => simp
      | none =>
          rw [List.find?_singleton]
          cases write.1.same q <;> simp

theorem fst_mem_insertFile {p q : Path} {content : ByteArray} {files : List (Path × ByteArray)}
    (h : q ∈ files.map (·.1)) : q ∈ (insertFile p content files).map (·.1) := by
  induction files with
  | nil => cases h
  | cons file files ih =>
      rw [insertFile]
      rw [List.map_cons, List.mem_cons] at h
      cases p.compare file.1 with
      | lt => simpa using Or.inr h
      | eq => simpa using h
      | gt =>
          simp only [List.map_cons, List.mem_cons]
          exact h.imp_right ih

theorem fst_mem_foldl_insertFile {q : Path} {writes files : List (Path × ByteArray)}
    (h : q ∈ files.map (·.1)) :
    q ∈ (writes.foldl (fun files write => insertFile write.1 write.2 files) files).map (·.1) := by
  induction writes generalizing files with
  | nil => exact h
  | cons write writes ih => exact ih (fst_mem_insertFile h)

theorem exists_mem_of_bytes? {store : Store} {p : Path} {content : ByteArray}
    (h : store.bytes? p = some content) :
    ∃ file ∈ store.files, file.1.components = p.components := by
  simp only [bytes?, Option.map_eq_some_iff] at h
  obtain ⟨file, hfind, -⟩ := h
  have hsame := List.find?_some hfind
  exact ⟨file, List.mem_of_find?_eq_some hfind, same_iff.mp hsame⟩

/-! ## Directories -/

theorem mem_beginnings {directory components : List Component} :
    directory ∈ beginnings components ↔ directory ≠ [] ∧ directory <+: components := by
  induction components generalizing directory with
  | nil => simp [beginnings]
  | cons c cs ih =>
      cases directory with
      | nil => simp [beginnings]
      | cons d ds =>
          simp only [beginnings, List.mem_cons, List.cons.injEq, List.mem_map, ih, ne_eq,
            List.cons_prefix_cons]
          by_cases hds : ds = []
          · subst hds
            simp [eq_comm]
          · constructor
            · rintro (⟨-, h⟩ | ⟨_, ⟨-, hprefix⟩, hd, rfl⟩)
              · exact absurd h hds
              · exact ⟨by simp, hd.symm, hprefix⟩
            · rintro ⟨-, hd, hprefix⟩
              exact Or.inr ⟨ds, ⟨hds, hprefix⟩, hd.symm, rfl⟩

theorem mem_foldl_addDirectory {new directories : List (List Component)}
    {directory : List Component} :
    directory ∈ new.foldl addDirectory directories ↔ directory ∈ directories ∨ directory ∈ new := by
  induction new generalizing directories with
  | nil => simp
  | cons first new ih =>
      have hadd : directory ∈ addDirectory directories first ↔
          directory ∈ directories ∨ directory = first := by
        unfold addDirectory
        split
        · next hmem =>
            constructor
            · exact Or.inl
            · rintro (h | rfl)
              · exact h
              · exact hmem
        · simp
      rw [List.foldl_cons, ih, hadd, List.mem_cons, or_assoc]

theorem mem_directories_createDirs {store : Store} {p : Path} {directory : List Component} :
    directory ∈ (store.createDirs p).directories ↔
      directory ∈ store.directories ∨ (directory ≠ [] ∧ directory <+: p.components) := by
  rw [createDirs, mem_foldl_addDirectory, mem_beginnings]

theorem directories_subset_withFile (store : Store) (p : Path) (content : ByteArray) :
    store.directories ⊆ (store.withFile p content).directories := by
  intro directory h
  unfold withFile
  split
  · exact mem_directories_createDirs.mpr (Or.inl h)
  · exact h

/-! ## Writable paths -/

theorem isWritable_iff {store : Store} {p : Path} :
    store.isWritable p = true ↔
      p.components.dropLast = [] ∨ p.components.dropLast ∈ store.directories := by
  rw [isWritable]
  cases hparent : p.parent? with
  | none => simp [components_dropLast_of_parent?_eq_none hparent]
  | some parent =>
      simp only [hasDirectory, Bool.or_eq_true, decide_eq_true_eq,
        ← components_eq_nil_iff, components_of_parent? hparent]

theorem isWritable_mono {store larger : Store} (h : store.directories ⊆ larger.directories)
    {p : Path} (hp : store.isWritable p = true) : larger.isWritable p = true := by
  rw [isWritable_iff] at hp ⊢
  exact hp.imp_right fun hmem => h hmem

theorem isWritable_congr {p q : Path} (h : p.components = q.components) (store : Store) :
    store.isWritable p = store.isWritable q := by
  rw [Bool.eq_iff_iff, isWritable_iff, isWritable_iff, h]

/-- A path can be written once the directories above it are made. -/
theorem isWritable_createDirs {p parent : Path} (h : p.parent? = some parent) (store : Store) :
    (store.createDirs parent).isWritable p = true := by
  rw [isWritable_iff, mem_directories_createDirs, components_of_parent? h]
  by_cases hnil : p.components.dropLast = []
  · exact Or.inl hnil
  · exact Or.inr (Or.inr ⟨hnil, List.prefix_refl _⟩)

theorem isWritable_of_parent?_eq_none {p : Path} (h : p.parent? = none) (store : Store) :
    store.isWritable p = true :=
  isWritable_iff.mpr (Or.inl (components_dropLast_of_parent?_eq_none h))

/-! ## Stores that the operations build -/

/-- The stores that can be built from the empty one: files are put in with their directories,
writing is attempted, and directories are made, in any order. -/
inductive Reachable : Store → Prop where
  | empty : Reachable Store.empty
  | withFile {store : Store} (path : Path) (content : ByteArray) :
      Reachable store → Reachable (store.withFile path content)
  | write {store : Store} (path : Path) (content : ByteArray) :
      Reachable store → Reachable (store.write path content).2
  | createDirs {store : Store} (path : Path) : Reachable store → Reachable (store.createDirs path)

/-- Every file of the store lies in a directory of the store, so it can be written again. -/
def Rewritable (store : Store) : Prop :=
  ∀ file ∈ store.files, store.isWritable file.1 = true

theorem Rewritable.put {store : Store} (h : store.Rewritable) {p : Path}
    (hp : store.isWritable p = true) (content : ByteArray) : (store.put p content).Rewritable := by
  intro file hfile
  change store.isWritable file.1 = true
  rcases mem_insertFile hfile with hsame | hmem
  · rwa [isWritable_congr hsame]
  · exact h file hmem

theorem Rewritable.createDirs {store : Store} (h : store.Rewritable) (p : Path) :
    (store.createDirs p).Rewritable := by
  intro file hfile
  have hgrows : store.directories ⊆ (store.createDirs p).directories :=
    fun _ hmem => mem_directories_createDirs.mpr (Or.inl hmem)
  exact isWritable_mono hgrows (h file hfile)

theorem Rewritable.withFile {store : Store} (h : store.Rewritable) (p : Path)
    (content : ByteArray) : (store.withFile p content).Rewritable := by
  unfold Store.withFile
  split
  · next parent hparent =>
      exact (h.createDirs parent).put (isWritable_createDirs hparent store) content
  · next hparent => exact h.put (isWritable_of_parent?_eq_none hparent store) content

theorem Rewritable.write {store : Store} (h : store.Rewritable) (p : Path)
    (content : ByteArray) : (store.write p content).2.Rewritable := by
  unfold Store.write
  split
  · next hp => exact h.put hp content
  · exact h

theorem Reachable.rewritable {store : Store} (h : store.Reachable) : store.Rewritable := by
  induction h with
  | empty => intro file hfile; cases hfile
  | withFile path content _ ih => exact ih.withFile path content
  | write path content _ ih => exact ih.write path content
  | createDirs path _ ih => exact ih.createDirs path

theorem Rewritable.isWritable_of_bytes? {store : Store} (h : store.Rewritable) {p : Path}
    {content : ByteArray} (hp : store.bytes? p = some content) : store.isWritable p = true := by
  obtain ⟨file, hfile, hsame⟩ := exists_mem_of_bytes? hp
  rw [← isWritable_congr hsame]
  exact h file hfile

theorem readText_eq_ok_iff {store : Store} {p : Path} {text : String} :
    store.readText p = .ok text ↔
      ∃ content, store.bytes? p = some content ∧ String.fromUTF8? content = some text := by
  unfold readText
  cases hbytes : store.bytes? p with
  | none => simp
  | some content =>
      cases htext : String.fromUTF8? content with
      | none => simp [htext]
      | some decoded => simp [htext]

theorem readText_of_bytes? {store : Store} {p : Path} {text : String}
    (h : store.bytes? p = some text.toUTF8) : store.readText p = .ok text :=
  readText_eq_ok_iff.mpr ⟨_, h, Text.Utf8.fromUTF8?_eq_some_iff.mpr rfl⟩

theorem readText_eq_error_iff {store : Store} {p : Path} :
    (∃ failure, store.readText p = .error failure) ↔
      ∀ text : String, store.bytes? p ≠ some text.toUTF8 := by
  constructor
  · rintro ⟨failure, herror⟩ text hbytes
    rw [readText_of_bytes? hbytes] at herror
    cases herror
  · intro h
    cases hread : store.readText p with
    | error failure => exact ⟨failure, rfl⟩
    | ok text =>
        obtain ⟨content, hbytes, hdecoded⟩ := readText_eq_ok_iff.mp hread
        rw [Text.Utf8.fromUTF8?_eq_some_iff.mp hdecoded] at hbytes
        exact absurd hbytes (h text)

theorem contains_of_bytes? {store : Store} {p : Path} {content : ByteArray}
    (h : store.bytes? p = some content) : store.contains p = true := by
  rw [contains, h]
  rfl

end Scaffold.Store
