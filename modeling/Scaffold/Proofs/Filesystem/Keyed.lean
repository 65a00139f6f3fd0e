import Mathlib.Data.List.Forall2
import Mathlib.Data.List.Nodup
import Scaffold.Proofs.Filesystem.Store
/-!
# Stores as maps

A store answers as a map from components to bytes does that keeps a set of directories beside it, so
the way a path is written shows only in the text of failures and in the listing. There each file
stands once, in the order of components, under the path it came in with.
-/

namespace Scaffold

open Scaffold.Path

namespace Store

/-! ## Operations and answers -/

inductive Action where
  | withFile (content : ByteArray)
  | write (content : ByteArray)
  | createDirs
  | readText
  | contains
  | lossyText

structure Operation where
  action : Action
  path : Path

/-- The same action at the same place, however the place is written. -/
def Operation.Alike (a b : Operation) : Prop :=
  a.action = b.action ∧ a.path.components = b.path.components

inductive Answer where
  | change (result : Except Failure Unit)
  | text (result : Except Failure String)
  | presence (found : Bool)
  | lossyText (text : Option String)

end Store

def Failure.withoutPath : Failure → Failure
  | filesystem _ reason => filesystem "" reason
  | failure => failure

namespace Store

def Answer.withoutPath : Answer → Answer
  | change result => change (result.mapError Failure.withoutPath)
  | text result => text (result.mapError Failure.withoutPath)
  | answer => answer

def perform (store : Store) (op : Operation) : Answer × Store :=
  match op.action with
  | .withFile content => (.change (.ok ()), store.withFile op.path content)
  | .write content => (store.write op.path content).map .change id
  | .createDirs => (.change (.ok ()), store.createDirs op.path)
  | .readText => (.text (store.readText op.path), store)
  | .contains => (.presence (store.contains op.path), store)
  | .lossyText => (.lossyText (store.lossyText? op.path), store)

def runAll {σ : Type} (step : σ → Operation → Answer × σ) (state : σ) :
    List Operation → List Answer × σ
  | [] => ([], state)
  | op :: ops =>
    let rest := runAll step (step state op).2 ops
    ((step state op).1 :: rest.1, rest.2)

/-- Steps that keep two states related give related answers all along. -/
theorem runAll_related {σ τ : Type} {step : σ → Operation → Answer × σ}
    {step' : τ → Operation → Answer × τ} {R : σ → τ → Prop} {Q : Operation → Operation → Prop}
    {P : Answer → Answer → Prop}
    (hstep : ∀ s t a b, R s t → Q a b →
      P (step s a).1 (step' t b).1 ∧ R (step s a).2 (step' t b).2)
    {s : σ} {t : τ} (h : R s t) {ops others : List Operation} (hops : List.Forall₂ Q ops others) :
    List.Forall₂ P (runAll step s ops).1 (runAll step' t others).1 ∧
      R (runAll step s ops).2 (runAll step' t others).2 := by
  induction hops generalizing s t with
  | nil => exact ⟨.nil, h⟩
  | cons hop _ ih =>
      obtain ⟨hanswer, hnext⟩ := hstep _ _ _ _ h hop
      obtain ⟨hanswers, hlast⟩ := ih hnext
      exact ⟨.cons hanswer hanswers, hlast⟩

/-! ## Maps -/

/-- Files and directories by their components alone. -/
structure Keyed where
  bytes : List Component → Option ByteArray
  isDirectory : List Component → Bool

namespace Keyed

def empty : Keyed := ⟨fun _ => none, fun _ => false⟩

def put (keyed : Keyed) (key : List Component) (content : ByteArray) : Keyed :=
  { keyed with bytes := fun other => if key = other then some content else keyed.bytes other }

def createDirs (keyed : Keyed) (key : List Component) : Keyed :=
  { keyed with
    isDirectory := fun other => keyed.isDirectory other || (other ≠ [] && other.isPrefixOf key) }

def isWritable (keyed : Keyed) (key : List Component) : Bool :=
  key.dropLast = [] || keyed.isDirectory key.dropLast

def readText (keyed : Keyed) (path : Path) : Except Failure String :=
  match keyed.bytes path.components with
  | none => .error (.filesystem path.text "File does not exist")
  | some content =>
    match String.fromUTF8? content with
    | some text => .ok text
    | none => .error (.filesystem path.text "File is not valid UTF-8")

/-- One operation on a map. Only failures look at the text of the path. -/
def perform (keyed : Keyed) (op : Operation) : Answer × Keyed :=
  let key := op.path.components
  match op.action with
  | .withFile content => (.change (.ok ()), (keyed.createDirs key.dropLast).put key content)
  | .write content =>
    if keyed.isWritable key then (.change (.ok ()), keyed.put key content)
    else
      (.change (.error (.filesystem op.path.text "Parent directory does not exist")), keyed)
  | .createDirs => (.change (.ok ()), keyed.createDirs key)
  | .readText => (.text (keyed.readText op.path), keyed)
  | .contains => (.presence ((keyed.bytes key).isSome || keyed.isDirectory key), keyed)
  | .lossyText => (.lossyText ((keyed.bytes key).map Text.Utf8.decode), keyed)

theorem createDirs_nil (keyed : Keyed) : keyed.createDirs [] = keyed := by
  have hnone (other : List Component) : (other ≠ [] && other.isPrefixOf []) = false := by
    cases other <;> rfl
  simp only [createDirs, hnone, Bool.or_false]

/-- Another spelling of the path changes an answer by that path alone, and the map not at all. -/
theorem perform_alike {a b : Operation} (h : a.Alike b) (keyed : Keyed) :
    (keyed.perform a).1.withoutPath = (keyed.perform b).1.withoutPath ∧
      (keyed.perform a).2 = (keyed.perform b).2 := by
  obtain ⟨action, p⟩ := a
  obtain ⟨_, q⟩ := b
  obtain ⟨rfl, hkey⟩ : action = _ ∧ p.components = q.components := h
  cases action with
  | write content =>
      simp only [perform, hkey]
      split <;> exact ⟨rfl, rfl⟩
  | readText =>
      simp only [perform, readText, hkey, and_true]
      split
      · rfl
      · split <;> rfl
  | withFile | createDirs | contains | lossyText => simp only [perform, hkey, and_self]

end Keyed

/-! ## Listings -/

def IsSorted (store : Store) : Prop :=
  store.paths.Pairwise fun p q => p.compare q = .lt

theorem pairwise_insertFile {files : List (Path × ByteArray)}
    (h : files.Pairwise fun a b => a.1.compare b.1 = .lt) (p : Path) (content : ByteArray) :
    (insertFile p content files).Pairwise fun a b => a.1.compare b.1 = .lt := by
  induction files with
  | nil => exact List.pairwise_singleton _ _
  | cons file files ih =>
      obtain ⟨hfile, hfiles⟩ := List.pairwise_cons.mp h
      rw [insertFile]
      cases horder : p.compare file.1 with
      | lt =>
          refine List.pairwise_cons.mpr ⟨?_, h⟩
          intro other hother
          rcases List.mem_cons.mp hother with rfl | hother
          · exact horder
          · exact Std.TransCmp.lt_trans horder (hfile other hother)
      | eq => exact List.pairwise_cons.mpr ⟨hfile, hfiles⟩
      | gt =>
          refine List.pairwise_cons.mpr ⟨?_, ih hfiles⟩
          intro other hother
          rcases mem_insertFile hother with hsame | hother
          · have hlt : file.1.compare p = .lt := Std.OrientedCmp.lt_of_gt horder
            rwa [Path.compare, hsame]
          · exact hfile other hother

theorem IsSorted.put {store : Store} (h : store.IsSorted) (p : Path) (content : ByteArray) :
    (store.put p content).IsSorted :=
  List.pairwise_map.mpr (pairwise_insertFile (List.pairwise_map.mp h) p content)

theorem paths_withFile (store : Store) (p : Path) (content : ByteArray) :
    (store.withFile p content).paths = (store.put p content).paths :=
  congrArg (List.map Prod.fst) (files_withFile store p content)

theorem IsSorted.perform {store : Store} (h : store.IsSorted) (op : Operation) :
    (store.perform op).2.IsSorted := by
  obtain ⟨action, p⟩ := op
  cases action with
  | withFile content =>
      have hput := h.put p content
      rwa [IsSorted, ← paths_withFile] at hput
  | write content =>
      change (store.write p content).2.IsSorted
      rw [write]
      split
      · exact h.put p content
      · exact h
  | createDirs | readText | contains | lossyText => exact h

theorem exists_listed_iff {store : Store} {p : Path} :
    (∃ listed ∈ store.paths, listed.components = p.components) ↔ (store.bytes? p).isSome := by
  simp [paths, bytes?]

theorem mem_insertFile_of_sorted {p q : Path} {content : ByteArray}
    {files : List (Path × ByteArray)} (hsorted : files.Pairwise fun a b => a.1.compare b.1 = .lt)
    (h : q ∈ (insertFile p content files).map (·.1)) :
    q ∈ files.map (·.1) ∨ q = p ∧ ∀ file ∈ files, p.compare file.1 ≠ .eq := by
  induction files with
  | nil => exact .inr ⟨by simpa [insertFile] using h, by simp⟩
  | cons file files ih =>
      obtain ⟨hfile, hfiles⟩ := List.pairwise_cons.mp hsorted
      rw [insertFile] at h
      cases horder : p.compare file.1 with
      | lt =>
          simp only [horder, List.map_cons, List.mem_cons] at h
          rcases h with rfl | h
          · refine .inr ⟨rfl, ?_⟩
            intro other hother
            have hlt : q.compare other.1 = .lt := by
              rcases List.mem_cons.mp hother with rfl | hother
              · exact horder
              · exact Std.TransCmp.lt_trans horder (hfile other hother)
            simp [hlt]
          · exact .inl (List.mem_cons.mpr h)
      | eq =>
          simp only [horder, List.map_cons, List.mem_cons] at h
          exact .inl (List.mem_cons.mpr h)
      | gt =>
          simp only [horder, List.map_cons, List.mem_cons] at h
          rcases h with rfl | h
          · exact .inl List.mem_cons_self
          · rcases ih hfiles h with hlisted | ⟨rfl, hnew⟩
            · exact .inl (List.mem_cons_of_mem _ hlisted)
            · refine .inr ⟨rfl, List.forall_mem_cons.mpr ⟨?_, hnew⟩⟩
              simp [horder]

theorem mem_paths_put {store : Store} (h : store.IsSorted) {p q : Path} {content : ByteArray}
    (hq : q ∈ (store.put p content).paths) :
    q ∈ store.paths ∨ p = q ∧ store.bytes? q = none := by
  rcases mem_insertFile_of_sorted (List.pairwise_map.mp h) hq with hlisted | ⟨rfl, hnew⟩
  · exact .inl hlisted
  · refine .inr ⟨rfl, ?_⟩
    rw [bytes?, Option.map_eq_none_iff, List.find?_eq_none]
    intro file hfile hsame
    exact hnew file hfile (compare_eq_iff.mpr (same_iff.mp hsame).symm)

theorem mem_paths_perform {store : Store} (h : store.IsSorted) {op : Operation} {q : Path}
    (hq : q ∈ (store.perform op).2.paths) :
    q ∈ store.paths ∨
      op.path = q ∧ store.bytes? q = none ∧ ((store.perform op).2.bytes? q).isSome := by
  have hlisted : ((store.perform op).2.bytes? q).isSome := exists_listed_iff.mp ⟨q, hq, rfl⟩
  obtain ⟨action, p⟩ := op
  cases action with
  | withFile content =>
      have hput : q ∈ (store.put p content).paths := by
        rw [← paths_withFile]
        exact hq
      exact (mem_paths_put h hput).imp_right fun ⟨hpath, hnone⟩ => ⟨hpath, hnone, hlisted⟩
  | write content =>
      have hput : q ∈ store.paths ∨ q ∈ (store.put p content).paths := by
        change q ∈ (store.write p content).2.paths at hq
        rw [write] at hq
        split at hq
        · exact .inr hq
        · exact .inl hq
      rcases hput with hkept | hput
      · exact .inl hkept
      · exact (mem_paths_put h hput).imp_right fun ⟨hpath, hnone⟩ => ⟨hpath, hnone, hlisted⟩
  | createDirs | readText | contains | lossyText => exact .inl hq

theorem mem_paths_runAll {store : Store} (h : store.IsSorted) {ops : List Operation} {q : Path}
    (hq : q ∈ (runAll perform store ops).2.paths) :
    q ∈ store.paths ∨ ∃ before op after, ops = before ++ op :: after ∧ op.path = q ∧
      (runAll perform store before).2.bytes? q = none ∧
      ((runAll perform store (before ++ [op])).2.bytes? q).isSome := by
  -- on the operations, for every store: the first one lists the path, or it was listed before
  induction ops generalizing store with
  | nil => exact .inl hq
  | cons first ops ih =>
      rcases ih (h.perform first) hq with hlisted | ⟨before, op, after, rfl, hop⟩
      · refine (mem_paths_perform h hlisted).imp_right ?_
        rintro ⟨hpath, hnone, hsome⟩
        exact ⟨[], first, ops, rfl, hpath, hnone, hsome⟩
      · exact .inr ⟨first :: before, op, after, rfl, hop⟩

theorem map_components_paths_eq {store other : Store} (h : store.IsSorted) (h' : other.IsSorted)
    (hplaces : ∀ p, (store.bytes? p).isSome = (other.bytes? p).isSome) :
    store.paths.map Path.components = other.paths.map Path.components := by
  have hmem {a b : Store} (hle : ∀ p, (a.bytes? p).isSome = (b.bytes? p).isSome)
      {key : List Component} (hkey : key ∈ a.paths.map Path.components) :
      key ∈ b.paths.map Path.components := by
    obtain ⟨p, hp, rfl⟩ := List.mem_map.mp hkey
    have hsome := exists_listed_iff.mp ⟨p, hp, rfl⟩
    rw [hle] at hsome
    exact List.mem_map.mpr (exists_listed_iff.mpr hsome)
  have hsorted {a : Store} (ha : a.IsSorted) :
      (a.paths.map Path.components).Pairwise fun p q => compareComponents p q = .lt :=
    List.pairwise_map.mpr ha
  have hnodup {a : Store} (ha : a.IsSorted) : (a.paths.map Path.components).Nodup := by
    refine (hsorted ha).imp ?_
    rintro p q hpq rfl
    rw [compareComponents_eq_iff.mpr rfl] at hpq
    cases hpq
  have hperm : (store.paths.map Path.components).Perm (other.paths.map Path.components) :=
    (List.perm_ext_iff_of_nodup (hnodup h) (hnodup h')).mpr fun _ =>
      ⟨hmem hplaces, hmem fun p => (hplaces p).symm⟩
  refine hperm.eq_of_pairwise (fun p q _ _ hpq hqp => ?_) (hsorted h) (hsorted h')
  rw [Std.OrientedCmp.gt_of_lt hqp] at hpq
  cases hpq

/-! ## Stores and maps -/

/-- A store that is seen through a map. -/
structure Represents (store : Store) (keyed : Keyed) : Prop where
  bytes : ∀ p, store.bytes? p = keyed.bytes p.components
  directories : ∀ key, key ∈ store.directories ↔ keyed.isDirectory key = true
  sorted : store.IsSorted

namespace Represents

theorem empty : Represents Store.empty Keyed.empty where
  bytes _ := rfl
  directories key := by simp [Store.empty, Keyed.empty]
  sorted := List.Pairwise.nil

variable {store : Store} {keyed : Keyed}

theorem put (h : Represents store keyed) (p : Path) (content : ByteArray) :
    Represents (store.put p content) (keyed.put p.components content) where
  bytes q := by
    rw [bytes?_put, h.bytes, Keyed.put]
    simp only [same_iff]
  directories := h.directories
  sorted := h.sorted.put p content

theorem createDirs (h : Represents store keyed) (p : Path) :
    Represents (store.createDirs p) (keyed.createDirs p.components) where
  bytes := h.bytes
  directories key := by
    rw [mem_directories_createDirs, h.directories, Keyed.createDirs]
    simp
  sorted := h.sorted

theorem withFile (h : Represents store keyed) (p : Path) (content : ByteArray) :
    Represents (store.withFile p content)
      ((keyed.createDirs p.components.dropLast).put p.components content) := by
  rw [Store.withFile]
  cases hparent : p.parent? with
  | none =>
      rw [components_dropLast_of_parent?_eq_none hparent, Keyed.createDirs_nil]
      exact h.put p content
  | some parent =>
      rw [← components_of_parent? hparent]
      exact (h.createDirs parent).put p content

theorem isWritable (h : Represents store keyed) (p : Path) :
    store.isWritable p = keyed.isWritable p.components := by
  rw [Bool.eq_iff_iff, isWritable_iff, h.directories, Keyed.isWritable]
  simp

theorem hasDirectory (h : Represents store keyed) (p : Path) :
    store.hasDirectory p = keyed.isDirectory p.components := by
  rw [Bool.eq_iff_iff, Store.hasDirectory, decide_eq_true_eq, h.directories]

theorem perform (h : Represents store keyed) (op : Operation) :
    (store.perform op).1 = (keyed.perform op).1 ∧
      Represents (store.perform op).2 (keyed.perform op).2 := by
  obtain ⟨action, p⟩ := op
  cases action with
  | withFile content => exact ⟨rfl, h.withFile p content⟩
  | write content =>
      simp only [Store.perform, Keyed.perform, Store.write, h.isWritable p]
      split
      · exact ⟨rfl, h.put p content⟩
      · exact ⟨rfl, h⟩
  | createDirs => exact ⟨rfl, h.createDirs p⟩
  | readText =>
      refine ⟨congrArg Answer.text ?_, h⟩
      rw [Store.readText, h.bytes]
      rfl
  | contains =>
      refine ⟨congrArg Answer.presence ?_, h⟩
      rw [Store.contains, h.bytes, h.hasDirectory]
  | lossyText =>
      refine ⟨congrArg Answer.lossyText ?_, h⟩
      rw [lossyText?, h.bytes]

end Represents

theorem runAll_keyed (ops : List Operation) :
    (runAll perform Store.empty ops).1 = (runAll Keyed.perform Keyed.empty ops).1 ∧
      Represents (runAll perform Store.empty ops).2 (runAll Keyed.perform Keyed.empty ops).2 := by
  have hrun := @runAll_related _ _ perform Keyed.perform Represents Eq Eq
    (fun _ _ _ _ h hop => hop ▸ h.perform _) _ _ Represents.empty ops ops
    (List.forall₂_refl ops)
  rwa [List.forall₂_eq_eq_eq] at hrun

theorem runAll_keyed_alike {ops others : List Operation}
    (h : List.Forall₂ Operation.Alike ops others) :
    List.Forall₂ (fun a b => a.withoutPath = b.withoutPath)
        (runAll Keyed.perform Keyed.empty ops).1 (runAll Keyed.perform Keyed.empty others).1 ∧
      (runAll Keyed.perform Keyed.empty ops).2 = (runAll Keyed.perform Keyed.empty others).2 :=
  runAll_related (fun _ _ _ _ hstate hop => hstate ▸ Keyed.perform_alike hop _) rfl h

/-! ## Writes -/

theorem write_of_error {store : Store} {p : Path} {content : ByteArray} {failure : Failure}
    (h : (store.write p content).1 = .error failure) : (store.write p content).2 = store := by
  rw [write] at h ⊢
  split at h
  · cases h
  · next hrefused => rw [if_neg hrefused]

/-- What is answered at a path depends on the bytes there and on the directories. -/
theorem perform_congr {store other : Store} {op : Operation}
    (hbytes : store.bytes? op.path = other.bytes? op.path)
    (hdirectories : store.directories = other.directories) :
    (store.perform op).1 = (other.perform op).1 := by
  obtain ⟨action, p⟩ := op
  have hwritable : store.isWritable p = other.isWritable p := by
    rw [Bool.eq_iff_iff, isWritable_iff, isWritable_iff, hdirectories]
  cases action with
  | withFile | createDirs => rfl
  | write content =>
      simp only [perform, write, hwritable]
      split <;> rfl
  | readText => exact congrArg Answer.text (by rw [readText, readText, hbytes])
  | contains =>
      refine congrArg Answer.presence ?_
      rw [contains, contains, hbytes, hasDirectory, hasDirectory, hdirectories]
  | lossyText => exact congrArg Answer.lossyText (by rw [lossyText?, lossyText?, hbytes])

theorem perform_write_of_ne {store : Store} {p : Path} {content : ByteArray} {op : Operation}
    (h : op.path.components ≠ p.components) :
    ((store.write p content).2.perform op).1 = (store.perform op).1 := by
  rw [write]
  split
  · refine perform_congr ?_ rfl
    rw [bytes?_put, if_neg (by rw [same_iff]; exact Ne.symm h)]
  · rfl

/-- A store answers as a map of components to bytes with a set of directories. A write that fails
changes nothing, and one that succeeds changes no answer at another place. The listing is strictly
increasing, has exactly the places with bytes, and shows each as it was written when its first file
came in. Written in another way, the same operations give the same answers and list the same places,
but for the paths in failures and in the listing. -/
theorem store_is_map_of_components (ops : List Operation) :
    let answers := (runAll perform Store.empty ops).1
    let store := (runAll perform Store.empty ops).2
    let keyed := (runAll Keyed.perform Keyed.empty ops).2
    answers = (runAll Keyed.perform Keyed.empty ops).1 ∧
    (∀ p content failure, (store.write p content).1 = .error failure →
      (store.write p content).2 = store) ∧
    (∀ p content op, op.path.components ≠ p.components →
      ((store.write p content).2.perform op).1 = (store.perform op).1) ∧
    store.paths.Pairwise (fun p q => p.compare q = .lt) ∧
    (∀ p : Path, (∃ listed ∈ store.paths, listed.components = p.components) ↔
      (keyed.bytes p.components).isSome) ∧
    (∀ listed ∈ store.paths, ∃ before op after, ops = before ++ op :: after ∧ op.path = listed ∧
      (runAll perform Store.empty before).2.bytes? listed = none ∧
      ((runAll perform Store.empty (before ++ [op])).2.bytes? listed).isSome) ∧
    ∀ others, List.Forall₂ Operation.Alike ops others →
      List.Forall₂ (fun a b => a.withoutPath = b.withoutPath) answers
        (runAll perform Store.empty others).1 ∧
      (runAll perform Store.empty others).2.paths.map Path.components =
        store.paths.map Path.components := by
  intro answers store keyed
  obtain ⟨hanswers, hstore⟩ := runAll_keyed ops
  refine ⟨hanswers, fun _ _ _ => write_of_error, fun _ _ _ => perform_write_of_ne,
    hstore.sorted, ?_, ?_, ?_⟩
  · intro p
    rw [exists_listed_iff, hstore.bytes]
  · intro listed hlisted
    exact (mem_paths_runAll Represents.empty.sorted hlisted).resolve_left List.not_mem_nil
  · intro others hothers
    obtain ⟨hanswers', hstore'⟩ := runAll_keyed others
    obtain ⟨halike, hkeyed⟩ := runAll_keyed_alike hothers
    refine ⟨?_, map_components_paths_eq hstore'.sorted hstore.sorted fun p => ?_⟩
    · change List.Forall₂ _ (runAll perform Store.empty ops).1 _
      rwa [hanswers, hanswers']
    · rw [hstore'.bytes, hstore.bytes, hkeyed]

/-- A file that is put in, written again and read, and one without a directory, at paths that are
written in two ways. The listing shows the first spelling of each sequence. -/
theorem respelled_operations_answer_alike :
    let ops : List Operation :=
      [⟨.withFile "old".toUTF8, ⟨"/p//app.go"⟩⟩, ⟨.write "new".toUTF8, ⟨"/p/./app.go"⟩⟩,
        ⟨.write "x".toUTF8, ⟨"lib/x.go"⟩⟩, ⟨.readText, ⟨"/p/app.go/"⟩⟩]
    let others : List Operation :=
      [⟨.withFile "old".toUTF8, ⟨"/p/app.go"⟩⟩, ⟨.write "new".toUTF8, ⟨"//p/app.go"⟩⟩,
        ⟨.write "x".toUTF8, ⟨"lib//x.go"⟩⟩, ⟨.readText, ⟨"/p/./app.go"⟩⟩]
    List.Forall₂ Operation.Alike ops others ∧
      List.Forall₂ (fun a b => a.withoutPath = b.withoutPath)
        (runAll perform Store.empty ops).1 (runAll perform Store.empty others).1 ∧
      (runAll perform Store.empty ops).2.paths = [⟨"/p//app.go"⟩] ∧
      (runAll perform Store.empty others).2.paths = [⟨"/p/app.go"⟩] := by
  intro ops others
  have halike : List.Forall₂ Operation.Alike ops others :=
    .cons ⟨rfl, by decide⟩ (.cons ⟨rfl, by decide⟩ (.cons ⟨rfl, by decide⟩
      (.cons ⟨rfl, by decide⟩ .nil)))
  obtain ⟨-, -, -, -, -, -, hrespelled⟩ := store_is_map_of_components ops
  exact ⟨halike, (hrespelled others halike).1, by decide +kernel, by decide +kernel⟩

end Store

end Scaffold
