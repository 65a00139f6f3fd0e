import Scaffold.Proofs.Filesystem.Store
import Scaffold.Proofs.Run.Phases
/-!
# Runs on a store

Preparing leaves the store as it is, the generated files are always written, and the setup file is
written back whenever its directory is there.
-/

namespace Scaffold.Run

open Filesystem

variable (render : Renderer) (recipe : Recipe) (request : Request) (stamp : Stamp)

/-! ## Preparing -/

def patchIn (recipe : Recipe) (root : Path) (store : Store) : Except Failure Patch.Outcome :=
  if store.contains (setupPath recipe root) then
    match store.readText (setupPath recipe root) with
    | .ok text => recipe.patch.apply text
    | .error failure => .error failure
  else .error (.targetNotFound (setupPath recipe root).text)

theorem run_readPatch_ofStore (root : Path) (store : Store) :
    (readPatch ofStore recipe root).run store = (patchIn recipe root store, store) := by
  rw [run_readPatch]
  have hcontains : (ofStore.contains (setupPath recipe root)).run store =
      (store.contains (setupPath recipe root), store) := rfl
  have hread : (ofStore.readText (setupPath recipe root)).run store =
      (store.readText (setupPath recipe root), store) := rfl
  rw [hcontains, patchIn]
  cases store.contains (setupPath recipe root) with
  | false => rfl
  | true =>
      dsimp only
      rw [hread, if_pos rfl]
      cases store.readText (setupPath recipe root) <;> rfl

def preparedIn (listed : Except Failure (List Draft)) (store : Store) :
    Except Failure (List Draft × Patch.Outcome) := do
  let templates ← listed
  let drafts ← outputs recipe render request stamp templates
  let patch ← patchIn recipe request.root store
  return (drafts, patch)

theorem run_prepare_ofStore (describe : String) (listed : Except Failure (List Draft))
    (store : Store) :
    (prepare ofStore (.listing describe listed) render recipe request stamp).run store =
      (preparedIn render recipe request stamp listed store, store) := by
  rw [run_prepare]
  have hlisted : (TemplateSource.listing (m := StateM Store) describe listed).drafts.run store =
      (listed, store) := rfl
  rw [hlisted]
  cases listed with
  | error failure => rfl
  | ok templates =>
      change _ = (outputs recipe render request stamp templates >>= _, store)
      dsimp only
      cases outputs recipe render request stamp templates with
      | error failure => rfl
      | ok drafts =>
          dsimp only
          rw [run_readPatch_ofStore]
          change _ = (patchIn recipe request.root store >>= _, store)
          cases patchIn recipe request.root store <;> rfl

theorem patchIn_eq_ok_iff {root : Path} {store : Store} {patch : Patch.Outcome} :
    patchIn recipe root store = .ok patch ↔
      ∃ text, store.readText (setupPath recipe root) = .ok text ∧
        recipe.patch.apply text = .ok patch := by
  constructor
  · intro h
    unfold patchIn at h
    split at h
    · cases hread : store.readText (setupPath recipe root) with
      | error failure =>
          rw [hread] at h
          cases h
      | ok text =>
          rw [hread] at h
          exact ⟨text, rfl, h⟩
    · cases h
  · rintro ⟨text, hread, hpatch⟩
    obtain ⟨content, hbytes, -⟩ := Store.readText_eq_ok_iff.mp hread
    have hcontains : store.contains (setupPath recipe root) = true := by
      rw [Store.contains, hbytes]
      rfl
    rw [patchIn, if_pos hcontains, hread]
    exact hpatch

theorem preparedIn_eq_ok_iff {listed : Except Failure (List Draft)} {store : Store}
    {drafts : List Draft} {patch : Patch.Outcome} :
    preparedIn render recipe request stamp listed store = .ok (drafts, patch) ↔
      ∃ templates text, listed = .ok templates ∧
        outputs recipe render request stamp templates = .ok drafts ∧
        store.readText (setupPath recipe request.root) = .ok text ∧
        recipe.patch.apply text = .ok patch := by
  constructor
  · intro h
    obtain ⟨templates, hlisted, h⟩ := bind_eq_ok_iff.mp h
    obtain ⟨drafts', hdrafts, h⟩ := bind_eq_ok_iff.mp h
    obtain ⟨patch', hpatch, h⟩ := bind_eq_ok_iff.mp h
    cases h
    obtain ⟨text, hread, happly⟩ := (patchIn_eq_ok_iff recipe).mp hpatch
    exact ⟨templates, text, hlisted, hdrafts, hread, happly⟩
  · rintro ⟨templates, text, rfl, hdrafts, hread, happly⟩
    have hpatch := (patchIn_eq_ok_iff recipe).mpr ⟨text, hread, happly⟩
    rw [preparedIn]
    dsimp only [bind, Except.bind]
    rw [hdrafts]
    dsimp only
    rw [hpatch]
    rfl

/-! ## Writing -/

/-- The store after generated files were written into it, each with its directories. -/
def generate (root : Path) (store : Store) (drafts : List Draft) : Store :=
  drafts.foldl (fun store draft => store.withFile (placeOf root draft) draft.content) store

theorem run_performAll_changesFor (root : Path) (draft : Draft) (changes : List Change)
    (store : Store) :
    (ofStore.performAll (changesFor root draft ++ changes)).run store =
      (ofStore.performAll changes).run
        (store.withFile (placeOf root draft) draft.content) := by
  have hwrite (store : Store) (h : store.isWritable (placeOf root draft) = true) :
      (ofStore.performAll (.write (placeOf root draft) draft.content :: changes)).run store =
        (ofStore.performAll changes).run (store.put (placeOf root draft) draft.content) := by
    have hput : (ofStore.perform (.write (placeOf root draft) draft.content)).run store =
        (.ok (), store.put (placeOf root draft) draft.content) := by
      change store.write _ _ = _
      rw [Store.write, if_pos h]
    rw [performAll, run_bind_of_run_eq hput]
  cases hparent : (placeOf root draft).parent? with
  | none =>
      simp only [changesFor, Store.withFile, hparent]
      exact hwrite store (Store.isWritable_of_parent?_eq_none hparent store)
  | some parent =>
      have hdirs : (ofStore.perform (.createDirs parent)).run store =
          (.ok (), store.createDirs parent) := rfl
      simp only [changesFor, Store.withFile, hparent, Option.map_some, Option.toList_some,
        List.cons_append, List.nil_append]
      rw [performAll, run_bind_of_run_eq hdirs]
      exact hwrite (store.createDirs parent) (Store.isWritable_createDirs hparent store)

theorem run_performAll_plan (root : Path) (drafts : List Draft) (setup : String) (store : Store) :
    (ofStore.performAll (plan recipe root drafts setup)).run store =
      (generate root store drafts).write (setupPath recipe root) setup.toUTF8 := by
  -- no generated file fails, so the result is that of the last write, in the store they leave
  induction drafts generalizing store with
  | nil =>
      have hwrite : (ofStore.perform (.write (setupPath recipe root) setup.toUTF8)).run store =
          store.write (setupPath recipe root) setup.toUTF8 := rfl
      obtain ⟨result, store', hresult⟩ :
          ∃ result store', store.write (setupPath recipe root) setup.toUTF8 = (result, store') :=
        ⟨_, _, rfl⟩
      rw [hresult] at hwrite
      change (ofStore.performAll [.write (setupPath recipe root) setup.toUTF8]).run store = _
      rw [performAll, run_bind_of_run_eq hwrite, generate, List.foldl_nil, hresult]
      cases result <;> rfl
  | cons draft drafts ih =>
      have hplan : plan recipe root (draft :: drafts) setup =
          changesFor root draft ++ plan recipe root drafts setup := by
        simp only [plan, List.flatMap_cons, List.append_assoc]
      rw [hplan, run_performAll_changesFor, ih]
      rfl

theorem directories_subset_generate (root : Path) (store : Store) (drafts : List Draft) :
    store.directories ⊆ (generate root store drafts).directories := by
  induction drafts generalizing store with
  | nil => exact fun _ h => h
  | cons draft drafts ih =>
      intro directory h
      exact ih _ (Store.directories_subset_withFile store _ _ h)

theorem bytes?_generate_of_forall_ne {root path : Path} {drafts : List Draft}
    (h : ∀ draft ∈ drafts, (placeOf root draft).components ≠ path.components) (store : Store) :
    (generate root store drafts).bytes? path = store.bytes? path := by
  induction drafts generalizing store with
  | nil => rfl
  | cons draft drafts ih =>
      obtain ⟨hdraft, hdrafts⟩ := List.forall_mem_cons.mp h
      have hother : (placeOf root draft).same path = false := by
        rw [Bool.eq_false_iff]
        exact fun hsame => hdraft (Path.same_iff.mp hsame)
      calc
        (generate root store (draft :: drafts)).bytes? path
          = (store.withFile (placeOf root draft) draft.content).bytes? path := ih hdrafts _
        _ = store.bytes? path := by rw [Store.bytes?_withFile, hother, if_neg (by decide)]

/-- A generated file keeps its bytes unless a later one lands on it. -/
theorem bytes?_generate_of_getElem? {root : Path} {drafts : List Draft} {i : Nat} {draft : Draft}
    (hdraft : drafts[i]? = some draft)
    (h : ∀ j other, i < j → drafts[j]? = some other →
      (placeOf root other).components ≠ (placeOf root draft).components) (store : Store) :
    (generate root store drafts).bytes? (placeOf root draft) = some draft.content := by
  induction drafts generalizing store i with
  | nil => cases hdraft
  | cons first drafts ih =>
      cases i with
      | zero =>
          obtain rfl := Option.some.inj hdraft
          have hlater : ∀ other ∈ drafts,
              (placeOf root other).components ≠ (placeOf root first).components := by
            intro other hother
            obtain ⟨j, hj⟩ := List.mem_iff_getElem?.mp hother
            exact h (j + 1) other (Nat.succ_pos j) (by rwa [List.getElem?_cons_succ])
          change (generate root (store.withFile (placeOf root first) first.content) drafts).bytes? _ = _
          rw [bytes?_generate_of_forall_ne hlater, Store.bytes?_withFile,
            if_pos (Path.same_iff.mpr rfl)]
      | succ i =>
          rw [List.getElem?_cons_succ] at hdraft
          exact ih hdraft (fun j other hj hother => h (j + 1) other (Nat.succ_lt_succ hj)
            (by rwa [List.getElem?_cons_succ])) _

theorem bytes?_put_generate_of_getElem? {root target : Path} {drafts : List Draft} {i : Nat}
    {draft : Draft} (hdraft : drafts[i]? = some draft)
    (hlater : ∀ j other, i < j → drafts[j]? = some other →
      (placeOf root other).components ≠ (placeOf root draft).components)
    (htarget : target.components ≠ (placeOf root draft).components) (store : Store)
    (content : ByteArray) :
    ((generate root store drafts).put target content).bytes? (placeOf root draft) =
      some draft.content := by
  have hbeside : target.same (placeOf root draft) = false := by
    rw [Bool.eq_false_iff]
    exact fun hsame => htarget (Path.same_iff.mp hsame)
  rw [Store.bytes?_put, hbeside, if_neg (by decide), bytes?_generate_of_getElem? hdraft hlater]

/-- Where the setup file can be written, the changes of a run cannot fail. -/
theorem run_performAll_plan_of_isWritable {root : Path} {store : Store}
    (h : store.isWritable (setupPath recipe root) = true) (drafts : List Draft) (setup : String) :
    (ofStore.performAll (plan recipe root drafts setup)).run store =
      (.ok (), (generate root store drafts).put (setupPath recipe root) setup.toUTF8) := by
  rw [run_performAll_plan, Store.write,
    if_pos (Store.isWritable_mono (directories_subset_generate root store drafts) h)]

/-! ## Whole runs -/

theorem run_run_ofStore (describe : String) (listed : Except Failure (List Draft))
    (store : Store) :
    (run ofStore (.listing describe listed) render recipe request stamp).run store =
      match preparedIn render recipe request stamp listed store with
      | .error failure => (.error failure, store)
      | .ok (drafts, patch) => (finish ofStore recipe request stamp drafts patch).run store := by
  rw [run_run, run_prepare_ofStore]
  cases preparedIn render recipe request stamp listed store <;> rfl

end Scaffold.Run
