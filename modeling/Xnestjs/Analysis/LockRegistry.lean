import Xnestjs.Program.RedisClient
import Xnestjs.Model.Heap
import Xnestjs.Model.Run

/-!
# The registry under the contract of shared locks

The registry is correct for lock objects that keep the contract of `SharedLock`: `refCount`
is the number of current holders. Under that contract an `obtain` never replaces a lock in
use. What it does replace is an idle lock, whose handle may still be in somebody's hands:
a handle that is acquired only after its entry was replaced is held outside the registry.

`onEntry` records, for each handle, whether it was the registered lock of its key when its
count last rose from 0; that decides whether it is the registered lock while it is held.
-/

set_option autoImplicit false

namespace Xnestjs.Analysis

open Xnestjs.Model Xnestjs.Program.RedisClient

/-- A lock object that keeps the contract: it knows the number of its holders. -/
structure CountedLock where
  lock : RedisLock
  holders : ℕ
  deriving DecidableEq, Repr

def countedApi : LockApi CountedLock where
  sharedLock lock := ⟨lock, 0⟩
  refCount o := some o.holders
  kind o := o.lock.cls.kind

/-- INTERNAL: a counted lock is in use while somebody holds it. -/
theorem inUse_iff (o : CountedLock) : countedApi.inUse o = true ↔ 0 < o.holders := by
  simp [LockApi.inUse, countedApi]

/-- Obtaining a lock of some kind and key, and acquiring or releasing a handle. -/
inductive RegistryEvent where
  | obtainMutex (key : String)
  | obtainSemaphore (key : String) (limit : ℕ)
  | acquire (handle : ℕ)
  | release (handle : ℕ)
  deriving DecidableEq, Repr

/-- The client, and for each handle whether it was the registered lock of its key when its
count last rose from 0. -/
structure RegistryRun where
  client : Client CountedLock
  onEntry : ℕ → Bool

def freshRegistry : RegistryRun := ⟨.fresh, fun _ => false⟩

/-- One step of a run. An `obtain` that throws changes nothing. -/
def registryStep (s : RegistryRun) : RegistryEvent → Option RegistryRun
  | .obtainMutex key => some { s with client := (obtainMutex countedApi s.client key).2 }
  | .obtainSemaphore key limit =>
    some { s with client := (obtainSemaphore countedApi s.client key limit).2 }
  | .acquire h => s.client.heap[h]?.map fun o =>
    { client := { s.client with heap := s.client.heap.set h { o with holders := o.holders + 1 } }
      onEntry :=
        if o.holders = 0 then
          Function.update s.onEntry h (decide (s.client.locks o.lock.key = some h))
        else s.onEntry }
  | .release h => s.client.heap[h]?.map fun o =>
    { s with
      client := { s.client with heap := s.client.heap.set h { o with holders := o.holders - 1 } } }

/-- Every lock in use is the registered lock of its key. -/
def HeldRegistered (s : RegistryRun) : Prop :=
  ∀ h o, s.client.heap[h]? = some o → 0 < o.holders → s.client.locks o.lock.key = some h

/-- A lock whose count rises from 0 is the registered lock of its key. -/
def AcquiresRegistered (s : RegistryRun) : RegistryEvent → Prop
  | .acquire h => ∀ o, s.client.heap[h]? = some o → o.holders = 0 →
      s.client.locks o.lock.key = some h
  | _ => True

/-- What holds in every run: entries name locks of their key, and a lock in use is the
registered one exactly when it was when its count rose from 0. -/
structure RegistryInv (s : RegistryRun) : Prop where
  entries : ∀ key h, s.client.locks key = some h →
    ∃ o, s.client.heap[h]? = some o ∧ o.lock.key = key
  held : ∀ h o, s.client.heap[h]? = some o → 0 < o.holders →
    (s.client.locks o.lock.key = some h ↔ s.onEntry h = true)

/-- INTERNAL: at the start there is no lock. -/
theorem registryInv_fresh : RegistryInv freshRegistry :=
  ⟨fun _ _ h => by simp [freshRegistry, Client.fresh] at h,
    fun _ _ h => by simp [freshRegistry, Client.fresh] at h⟩

/-- INTERNAL: the entry of a key is its registered handle with the lock of that handle. -/
theorem entry_eq_some_iff {L : Type} (c : Client L) (key : String) (h : ℕ) (o : L) :
    c.entry key = some (h, o) ↔ c.locks key = some h ∧ c.heap[h]? = some o := by
  unfold Client.entry
  constructor
  · intro hentry
    obtain ⟨h', hlocks, hheap⟩ := Option.bind_eq_some_iff.mp hentry
    obtain ⟨o', ho', heq⟩ := Option.map_eq_some_iff.mp hheap
    cases heq
    exact ⟨hlocks, ho'⟩
  · rintro ⟨hlocks, hheap⟩
    simp [hlocks, hheap]

/-- INTERNAL: **an `obtain`** keeps the invariant; when it registers a new lock, the one it
replaces was idle. SOURCE: redis-client.ts:40-72 -/
theorem RegistryInv.obtain {s : RegistryRun} (h : RegistryInv s) (kind : String)
    (lock : RedisLock) :
    RegistryInv { s with client := (obtain countedApi s.client kind lock).2 } := by
  rcases obtain_cases countedApi s.client kind lock with
    ⟨_, _, -, -, -, heq⟩ | ⟨_, _, -, -, -, heq⟩ | ⟨hidle, heq⟩
  · simpa only [heq] using h
  · simpa only [heq] using h
  · simp only [heq]
    constructor
    · intro key i hi
      simp only [Function.update_apply] at hi
      split_ifs at hi with hkey
      · cases hi
        exact ⟨_, List.getElem?_concat_length, hkey.symm⟩
      · obtain ⟨o, ho, hok⟩ := h.entries key i hi
        exact ⟨o, getElem?_concat_eq_some_iff.mpr (Or.inl ho), hok⟩
    · intro i o ho hheld
      rcases getElem?_concat_eq_some_iff.mp ho with ho | ⟨-, rfl⟩
      · have hlt : i < s.client.heap.length := (List.getElem?_eq_some_iff.mp ho).1
        simp only [← h.held i o ho hheld, Function.update_apply]
        split_ifs with hkey
        · -- the lock under this key was idle, so a held one was not registered there
          constructor
          · intro heq'
            exact absurd (Option.some.inj heq').symm (Nat.ne_of_lt hlt)
          · intro hreg
            have hidle' := hidle i o ((entry_eq_some_iff _ _ _ _).mpr ⟨hkey ▸ hreg, ho⟩)
            rw [(inUse_iff o).mpr hheld] at hidle'
            exact absurd hidle' (by decide)
        · exact Iff.rfl
      · simp [countedApi] at hheld

/-- INTERNAL: an `obtain` adds no lock in use. -/
theorem obtained_marked {s : RegistryRun} {kind : String} {lock : RedisLock}
    (hmarked : ∀ i o, s.client.heap[i]? = some o → 0 < o.holders → s.onEntry i = true)
    {i : ℕ} {o : CountedLock}
    (ho : (obtain countedApi s.client kind lock).2.heap[i]? = some o) (hheld : 0 < o.holders) :
    s.onEntry i = true := by
  rcases obtain_cases countedApi s.client kind lock with
    ⟨_, _, -, -, -, heq⟩ | ⟨_, _, -, -, -, heq⟩ | ⟨-, heq⟩
  · rw [heq] at ho
    exact hmarked i o ho hheld
  · rw [heq] at ho
    exact hmarked i o ho hheld
  · rw [heq] at ho
    rcases getElem?_concat_eq_some_iff.mp ho with ho | ⟨-, rfl⟩
    · exact hmarked i o ho hheld
    · simp [countedApi] at hheld

/-- INTERNAL: changing the holders of one lock keeps the entries naming locks of their
key. -/
theorem RegistryInv.entries_set {s : RegistryRun} (h : RegistryInv s) {i : ℕ}
    {o : CountedLock} (ho : s.client.heap[i]? = some o) (n : ℕ) :
    ∀ key h', s.client.locks key = some h' →
      ∃ o', (s.client.heap.set i { o with holders := n })[h']? = some o' ∧
        o'.lock.key = key := by
  intro key h' hreg
  obtain ⟨o', ho', hkey⟩ := h.entries key h' hreg
  by_cases hi : i = h'
  · subst hi
    rw [ho] at ho'
    cases ho'
    have hlt : i < s.client.heap.length := (List.getElem?_eq_some_iff.mp ho).1
    exact ⟨_, List.getElem?_set_self hlt, hkey⟩
  · exact ⟨o', by rw [List.getElem?_set_ne hi, ho'], hkey⟩

/-- INTERNAL: **one step** keeps the invariant. -/
theorem registryInv_step (s : RegistryRun) (e : RegistryEvent) (t : RegistryRun)
    (h : RegistryInv s) (hst : registryStep s e = some t) : RegistryInv t := by
  cases e with
  | obtainMutex key =>
    cases hst
    exact h.obtain _ _
  | obtainSemaphore key limit =>
    cases hst
    exact h.obtain _ _
  | acquire i =>
    obtain ⟨o, ho, rfl⟩ := Option.map_eq_some_iff.mp hst
    have hlt : i < s.client.heap.length := (List.getElem?_eq_some_iff.mp ho).1
    refine ⟨h.entries_set ho _, fun j o' ho' hheld => ?_⟩
    simp only at ho' ⊢
    by_cases hj : i = j
    · subst hj
      rw [List.getElem?_set_self hlt] at ho'
      cases ho'
      by_cases hzero : o.holders = 0
      · simp [hzero]
      · simp only [hzero, if_false]
        exact h.held i o ho (Nat.pos_of_ne_zero hzero)
    · rw [List.getElem?_set_ne hj] at ho'
      rw [h.held j o' ho' hheld]
      split_ifs with hzero
      · rw [Function.update_of_ne (Ne.symm hj)]
      · exact Iff.rfl
  | release i =>
    obtain ⟨o, ho, rfl⟩ := Option.map_eq_some_iff.mp hst
    have hlt : i < s.client.heap.length := (List.getElem?_eq_some_iff.mp ho).1
    refine ⟨h.entries_set ho _, fun j o' ho' hheld => ?_⟩
    simp only at ho' ⊢
    by_cases hj : i = j
    · subst hj
      rw [List.getElem?_set_self hlt] at ho'
      cases ho'
      exact h.held i o ho (by simp only at hheld; omega)
    · rw [List.getElem?_set_ne hj] at ho'
      exact h.held j o' ho' hheld

/-! ## Every run -/

/-- INTERNAL: in a state of the invariant where every lock in use is registered, a step keeps
it so exactly when it acquires, if it takes an idle lock, the registered one. -/
theorem heldRegistered_step {s t : RegistryRun} {e : RegistryEvent} (hinv : RegistryInv s)
    (hreg : HeldRegistered s) (hst : registryStep s e = some t) :
    HeldRegistered t ↔ AcquiresRegistered s e := by
  have hinv' : RegistryInv t := registryInv_step s e t hinv hst
  have hmarked : ∀ i o, s.client.heap[i]? = some o → 0 < o.holders → s.onEntry i = true :=
    fun i o ho hheld => (hinv.held i o ho hheld).mp (hreg i o ho hheld)
  cases e with
  | obtainMutex key =>
    refine ⟨fun _ => trivial, fun _ i o ho hheld => (hinv'.held i o ho hheld).mpr ?_⟩
    cases hst
    exact obtained_marked hmarked ho hheld
  | obtainSemaphore key limit =>
    refine ⟨fun _ => trivial, fun _ i o ho hheld => (hinv'.held i o ho hheld).mpr ?_⟩
    cases hst
    exact obtained_marked hmarked ho hheld
  | acquire i =>
    obtain ⟨o, ho, rfl⟩ := Option.map_eq_some_iff.mp hst
    have hlt : i < s.client.heap.length := (List.getElem?_eq_some_iff.mp ho).1
    constructor
    · intro hreg' o' ho' hzero
      rw [ho] at ho'
      cases ho'
      exact hreg' i { o with holders := o.holders + 1 } (List.getElem?_set_self hlt)
        (Nat.succ_pos o.holders)
    · intro hC j o' ho' hheld
      by_cases hj : i = j
      · subst hj
        simp only [List.getElem?_set_self hlt] at ho'
        cases ho'
        by_cases hzero : o.holders = 0
        · exact hC o ho hzero
        · exact hreg i o ho (Nat.pos_of_ne_zero hzero)
      · simp only [List.getElem?_set_ne hj] at ho'
        exact hreg j o' ho' hheld
  | release i =>
    obtain ⟨o, ho, rfl⟩ := Option.map_eq_some_iff.mp hst
    have hlt : i < s.client.heap.length := (List.getElem?_eq_some_iff.mp ho).1
    refine ⟨fun _ => trivial, fun _ j o' ho' hheld => ?_⟩
    by_cases hj : i = j
    · subst hj
      simp only [List.getElem?_set_self hlt] at ho'
      cases ho'
      exact hreg i o ho (by simp only at hheld; omega)
    · simp only [List.getElem?_set_ne hj] at ho'
      exact hreg j o' ho' hheld

/-- **A lock in use is the registered one exactly when it was when its count rose.** In
every run of obtains, acquires and releases, on any handles and in any order: a handle with a
holder is the stored entry of its key exactly when it was that entry when its count last rose
from 0, so two such handles have different keys. All handles in use are entries throughout
the run exactly when every acquire of an idle handle is made on the stored entry of its key.
SOURCE: redis-client.ts:40-72 -/
theorem held_is_entry_iff (es : List RegistryEvent) :
    (∀ s, runFrom registryStep freshRegistry es = some s →
      (∀ h o, s.client.heap[h]? = some o → 0 < o.holders →
        (s.client.locks o.lock.key = some h ↔ s.onEntry h = true)) ∧
      (∀ h h' o o', s.client.heap[h]? = some o → s.client.heap[h']? = some o' →
        0 < o.holders → 0 < o'.holders → s.onEntry h = true → s.onEntry h' = true →
        o.lock.key = o'.lock.key → h = h')) ∧
    (Throughout registryStep HeldRegistered freshRegistry es ↔
      EachStep registryStep AcquiresRegistered freshRegistry es) := by
  constructor
  · intro s hrun
    have hinv : RegistryInv s := invariant_of_run registryInv_step registryInv_fresh hrun
    refine ⟨hinv.held, fun h h' o o' ho ho' hheld hheld' hm hm' hkey => ?_⟩
    have hentry := (hinv.held h o ho hheld).mpr hm
    have hentry' := (hinv.held h' o' ho' hheld').mpr hm'
    rw [hkey, hentry'] at hentry
    exact (Option.some.inj hentry).symm
  · exact throughout_iff_eachStep (I := fun s => RegistryInv s ∧ HeldRegistered s)
      (fun s e t h hC hst =>
        ⟨registryInv_step s e t h.1 hst, (heldRegistered_step h.1 h.2 hst).mpr hC⟩)
      (fun s h => h.2)
      (fun s e t h hC hst hreg => hC ((heldRegistered_step h.1 h.2 hst).mp hreg))
      ⟨registryInv_fresh, fun _ _ h => by simp [freshRegistry, Client.fresh] at h⟩

/-- The mutex of the key "k" is obtained twice while idle; the first handle, acquired only
then, is held and is not the stored entry. -/
theorem late_acquire_outside_registry :
    ¬ Throughout registryStep HeldRegistered freshRegistry
      [.obtainMutex "k", .obtainMutex "k", .acquire 0] := by
  intro h
  have hreg := h.final (t := _) rfl
  exact absurd (hreg 0 _ rfl (by decide)) (by decide)

end Xnestjs.Analysis
