import Scaffold.Proofs.Filesystem.Store
/-!
# Directories of a store

The directories of a store that the operations have built. With a directory there are those above
it, every file lies in one of them, and a file can be written and read at any path once the
directory above it is made.
-/

namespace Scaffold.Store

open Scaffold.Path

/-! ## Directories above directories -/

/-- With each directory there is the one above it, unless that is the place where a path starts. -/
def IsClosed (store : Store) : Prop :=
  ∀ directory ∈ store.directories,
    directory.dropLast ≠ [] → directory.dropLast ∈ store.directories

namespace IsClosed

variable {store : Store} (h : store.IsClosed)

include h

theorem createDirs (p : Path) : (store.createDirs p).IsClosed := by
  intro directory hdirectory habove
  rw [mem_directories_createDirs] at hdirectory ⊢
  rcases hdirectory with hold | ⟨-, hprefix⟩
  · exact .inl (h directory hold habove)
  · exact .inr ⟨habove, (List.dropLast_prefix directory).trans hprefix⟩

theorem withFile (p : Path) (content : ByteArray) : (store.withFile p content).IsClosed := by
  unfold Store.withFile
  split
  · next parent _ => exact h.createDirs parent
  · exact h

theorem write (p : Path) (content : ByteArray) : (store.write p content).2.IsClosed := by
  unfold Store.write
  split <;> exact h

theorem hasDirectory_parent {p parent : Path} (hp : store.hasDirectory p = true)
    (hparent : p.parent? = some parent) (hne : parent.octets ≠ []) :
    store.hasDirectory parent = true := by
  rw [hasDirectory, decide_eq_true_eq] at hp ⊢
  have hcomponents := components_of_parent? hparent
  rw [hcomponents]
  refine h _ hp fun hnil => hne (components_eq_nil_iff.mp ?_)
  rw [hcomponents, hnil]

end IsClosed

theorem Reachable.isClosed {store : Store} (h : store.Reachable) : store.IsClosed := by
  induction h with
  | empty => intro directory hdirectory; cases hdirectory
  | withFile path content _ ih => exact ih.withFile path content
  | write path content _ ih => exact ih.write path content
  | createDirs path _ ih => exact ih.createDirs path

/-! ## Writing and reading -/

theorem write_of_isWritable {store : Store} {p : Path} (h : store.isWritable p = true)
    (content : ByteArray) : store.write p content = (.ok (), store.put p content) := by
  rw [write, if_pos h]

theorem readText_put {p : Path} {content : ByteArray} {text : String}
    (h : String.fromUTF8? content = some text) (store : Store) :
    (store.put p content).readText p = .ok text := by
  refine readText_eq_ok_iff.mpr ⟨content, ?_, h⟩
  rw [bytes?_put, if_pos (same_iff.mpr rfl)]

/-- In a store that the operations have built, the directories are closed under going up, and every
file lies at the start of a path or in a directory. At every path that has something above it, a
file can be written once that directory is made, and what was written is read again if it is
text. -/
theorem reachable_directories {store : Store} (h : store.Reachable) :
    (∀ directory ∈ store.directories,
      directory.dropLast = [] ∨ directory.dropLast ∈ store.directories) ∧
    (∀ p parent : Path, store.hasDirectory p = true → p.parent? = some parent →
      parent.octets = [] ∨ store.hasDirectory parent = true) ∧
    (∀ file ∈ store.files, ∀ parent, file.1.parent? = some parent →
      parent.octets = [] ∨ store.hasDirectory parent = true) ∧
    ∀ (p parent : Path) (content : ByteArray), p.parent? = some parent →
      ∃ written, (store.createDirs parent).write p content = (.ok (), written) ∧
        ∀ text, String.fromUTF8? content = some text → written.readText p = .ok text := by
  refine ⟨fun directory hdirectory => ?_, fun p parent hp hparent => ?_,
    fun file hfile parent hparent => ?_, fun p parent content hparent => ?_⟩
  · exact or_iff_not_imp_left.mpr (h.isClosed directory hdirectory)
  · exact or_iff_not_imp_left.mpr (h.isClosed.hasDirectory_parent hp hparent)
  · have hwritable := h.rewritable file hfile
    rw [isWritable, hparent] at hwritable
    simpa using hwritable
  · have hwritable := isWritable_createDirs hparent store
    exact ⟨_, write_of_isWritable hwritable content, fun text htext => readText_put htext _⟩

/-- A store with a file, a failed write and directories under dots, and one more file in it. -/
theorem reachable_directories_under_dots :
    let p : Path := ⟨".//x/../y.go/"⟩
    let store :=
      (((Store.empty.withFile ⟨"/p//a.go"⟩ "a".toUTF8).write ⟨"lib/b.go"⟩ "b".toUTF8).2).createDirs
        ⟨"./x/."⟩
    store.Reachable ∧ p.parent? = some ⟨".//x/.."⟩ ∧
      (∀ directory ∈ store.directories,
        directory.dropLast = [] ∨ directory.dropLast ∈ store.directories) ∧
      ∃ written, (store.createDirs ⟨".//x/.."⟩).write p "é".toUTF8 = (.ok (), written) ∧
        written.readText p = .ok "é" := by
  intro p store
  have hstore : store.Reachable := .createDirs _ (.write _ _ (.withFile _ _ .empty))
  have hparent : p.parent? = some ⟨".//x/.."⟩ := by decide +kernel
  obtain ⟨hclosed, -, -, hwrite⟩ := reachable_directories hstore
  obtain ⟨written, hwritten, hread⟩ := hwrite p ⟨".//x/.."⟩ "é".toUTF8 hparent
  exact ⟨hstore, hparent, hclosed, written, hwritten,
    hread "é" (Text.Utf8.fromUTF8?_eq_some_iff.mpr rfl)⟩

end Scaffold.Store
