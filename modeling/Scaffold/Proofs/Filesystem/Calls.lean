import Scaffold.Filesystem.Basic
/-!
# Records of changes

Filesystems that keep a record of the changes asked of them. Carrying out changes asks for a
beginning of them: for all of them if none fails, and otherwise for those up to the first failure.
-/

namespace Scaffold

structure Call where
  change : Change
  result : Except Failure Unit

namespace Filesystem

section Record

variable {m : Type → Type} [Monad m]

def record (change : Change) (action : m (Except Failure Unit)) :
    StateT (List Call) m (Except Failure Unit) := do
  let result ← StateT.lift action
  modify (· ++ [⟨change, result⟩])
  return result

/-- The same operations with a record of the changes that were asked for. -/
def recorded (files : Filesystem m) : Filesystem (StateT (List Call) m) where
  readText path := StateT.lift (files.readText path)
  write path content := record (.write path content) (files.write path content)
  createDirs path := record (.createDirs path) (files.createDirs path)
  contains path := StateT.lift (files.contains path)

theorem perform_recorded (files : Filesystem m) (change : Change) :
    files.recorded.perform change = record change (files.perform change) := by
  cases change <;> rfl

theorem run_record (change : Change) (action : m (Except Failure Unit)) (calls : List Call)
    [LawfulMonad m] :
    (record change action).run calls =
      (fun result => (result, calls ++ [⟨change, result⟩])) <$> action := by
  simp only [record, StateT.run_bind, StateT.run_lift, StateT.run_modify, StateT.run_pure,
    bind_assoc, pure_bind, map_eq_pure_bind]

/-- Forgetting the record gives back the plain operations. -/
theorem map_fst_performAll_recorded [LawfulMonad m] (files : Filesystem m) (changes : List Change)
    (calls : List Call) :
    Prod.fst <$> (files.recorded.performAll changes).run calls = files.performAll changes := by
  induction changes generalizing calls with
  | nil => simp [performAll]
  | cons change changes ih =>
      simp only [performAll, StateT.run_bind, perform_recorded, run_record, bind_map_left, map_bind]
      apply bind_congr
      intro result
      cases result with
      | error failure => simp
      | ok _ => exact ih _

end Record

/-- How calls carry out changes: each change succeeds and the next one is asked for, or the first
failure is the last call and the result. -/
inductive Carries : List Change → List Call → Except Failure Unit → Prop where
  | done : Carries [] [] (.ok ())
  | failed (change : Change) (changes : List Change) (failure : Failure) :
      Carries (change :: changes) [⟨change, .error failure⟩] (.error failure)
  | next (change : Change) {changes : List Change} {calls : List Call}
      {result : Except Failure Unit} :
      Carries changes calls result →
      Carries (change :: changes) (⟨change, .ok ()⟩ :: calls) result

namespace Carries

variable {changes : List Change} {calls : List Call} {result : Except Failure Unit}

theorem isPrefix (h : Carries changes calls result) : calls.map (·.change) <+: changes := by
  induction h with
  | done => exact List.nil_prefix
  | failed change changes failure => exact List.cons_prefix_cons.mpr ⟨rfl, List.nil_prefix⟩
  | next change _ ih => exact List.cons_prefix_cons.mpr ⟨rfl, ih⟩

theorem eq_of_ok (h : Carries changes calls result) (hok : result = .ok ()) :
    calls.map (·.change) = changes ∧ ∀ call ∈ calls, call.result = .ok () := by
  induction h with
  | done => exact ⟨rfl, by simp⟩
  | failed change changes failure => cases hok
  | next change _ ih =>
      obtain ⟨heq, hall⟩ := ih hok
      refine ⟨by rw [List.map_cons, heq], ?_⟩
      intro call hcall
      rcases List.mem_cons.mp hcall with rfl | hcall
      · rfl
      · exact hall call hcall

theorem getLast?_of_error (h : Carries changes calls result) {failure : Failure}
    (herror : result = .error failure) :
    ∃ last, calls.getLast? = some last ∧ last.result = .error failure := by
  induction h with
  | done => cases herror
  | failed change changes cause => exact ⟨_, rfl, herror⟩
  | next change _ ih =>
      obtain ⟨last, hlast, hresult⟩ := ih herror
      exact ⟨last, by rw [List.getLast?_cons, hlast, Option.getD_some], hresult⟩

theorem ok_of_mem_dropLast (h : Carries changes calls result) :
    ∀ call ∈ calls.dropLast, call.result = .ok () := by
  induction h with
  | done => simp
  | failed change changes failure => simp
  | @next change _ calls _ _ ih =>
      cases calls with
      | nil => simp
      | cons first calls =>
          rw [List.dropLast_cons_cons]
          intro call hcall
          rcases List.mem_cons.mp hcall with rfl | hcall
          · rfl
          · exact ih call hcall

theorem take_of_length_lt {init : List Change} {last : Change}
    (h : Carries (init ++ [last]) calls result) (hlength : init.length < calls.length) :
    (calls.take init.length).map (·.change) = init ∧
      ∀ call ∈ calls.take init.length, call.result = .ok () := by
  have hbound : calls.length ≤ init.length + 1 := by simpa using h.isPrefix.length_le
  have hchanges : calls.map (·.change) = init ++ [last] := by
    apply h.isPrefix.eq_of_length
    simp only [List.length_map, List.length_append, List.length_singleton]
    omega
  constructor
  · rw [List.map_take, hchanges, List.take_left]
  · have hinit : calls.take init.length = calls.dropLast := by
      rw [List.dropLast_eq_take]
      congr 1
      omega
    rw [hinit]
    exact h.ok_of_mem_dropLast

end Carries

section State

variable {σ : Type} (files : Filesystem (StateM σ))

theorem run_performAll_cons (change : Change) (changes : List Change) (calls : List Call) (s : σ) :
    ((files.recorded.performAll (change :: changes)).run calls).run s =
      match (files.perform change).run s with
      | (.ok (), s) =>
        ((files.recorded.performAll changes).run (calls ++ [⟨change, .ok ()⟩])).run s
      | (.error failure, s) =>
        ((.error failure, calls ++ [⟨change, .error failure⟩]), s) := by
  simp only [performAll, StateT.run_bind, perform_recorded, run_record, StateT.run_map]
  obtain ⟨result, s', hresult⟩ : ∃ result s', (files.perform change).run s = (result, s') :=
    ⟨_, _, rfl⟩
  rw [hresult]
  cases result <;> rfl

theorem carries_performAll (changes : List Change) (calls : List Call) (s : σ) :
    ∃ made, (((files.recorded.performAll changes).run calls).run s).1.2 = calls ++ made ∧
      Carries changes made (((files.recorded.performAll changes).run calls).run s).1.1 := by
  -- the record grows at its end, so the calls made so far stay in front of those of the induction
  induction changes generalizing calls s with
  | nil => exact ⟨[], (List.append_nil calls).symm, .done⟩
  | cons change changes ih =>
      rw [run_performAll_cons]
      obtain ⟨result, s', hresult⟩ : ∃ result s', (files.perform change).run s = (result, s') :=
        ⟨_, _, rfl⟩
      rw [hresult]
      cases result with
      | error failure => exact ⟨[⟨change, .error failure⟩], rfl, .failed change changes failure⟩
      | ok _ =>
          obtain ⟨made, hcalls, hcarries⟩ := ih (calls ++ [⟨change, .ok ()⟩]) s'
          exact ⟨⟨change, .ok ()⟩ :: made, hcalls.trans (List.append_cons ..).symm,
            hcarries.next change⟩

end State

end Filesystem

end Scaffold
