import Xnestjs.Analysis.LockRegistry

/-!
# Kinds of locks in the registry

Each `obtain` method asks for one kind of lock and creates one class of lock, and the class
brings its own kind along. The registry is consistent when these agree: the lock in use is
handed out by the method that registered it and refused by the other two.
`obtainMultiSemaphore` asks for "multi-semaphore" and creates a `Semaphore`.
-/

set_option autoImplicit false

namespace Xnestjs.Analysis

open Xnestjs.Model Xnestjs.Program.RedisClient

/-- The three `obtain` methods. -/
inductive ObtainMethod where
  | mutex
  | semaphore
  | multiSemaphore
  deriving DecidableEq, Repr

/-- The kind of lock that a method is for. -/
def ObtainMethod.kind : ObtainMethod → String
  | .mutex => "mutex"
  | .semaphore => "semaphore"
  | .multiSemaphore => "multi-semaphore"

/-- A call of a method; mutexes have no limit. -/
def obtainBy {L : Type} (api : LockApi L) (c : Client L) (m : ObtainMethod) (key : String)
    (limit : ℕ) : Except String ℕ × Client L :=
  match m with
  | .mutex => obtainMutex api c key
  | .semaphore => obtainSemaphore api c key limit
  | .multiSemaphore => obtainMultiSemaphore api c key limit

/-- The lock that a method creates. -/
def ObtainMethod.creates (m : ObtainMethod) (key : String) (limit : ℕ) : RedisLock :=
  match m with
  | .mutex => ⟨.mutex, key, none⟩
  | .semaphore => ⟨.semaphore, key, some limit⟩
  | .multiSemaphore => ⟨.semaphore, key, some limit⟩

/-- What a call should do on a key whose entry was registered by a method: hand it out or throw
while it is held, with nothing changed, and replace it by a new lock of the kind asked for when
it is not, with the other keys untouched. -/
structure RespectsKind (c : Client CountedLock) (registeredBy calls : ObtainMethod) (key : String)
    (limit : ℕ) (h : ℕ) (o : CountedLock) : Prop where
  shared : 0 < o.holders → calls = registeredBy →
    obtainBy countedApi c calls key limit = (.ok h, c)
  refused : 0 < o.holders → calls ≠ registeredBy →
    ∃ message, obtainBy countedApi c calls key limit = (.error message, c)
  replaced : o.holders = 0 → ∃ h' new, c.heap[h']? = none ∧
    (obtainBy countedApi c calls key limit).1 = .ok h' ∧
    (obtainBy countedApi c calls key limit).2.entry key = some (h', new) ∧
    countedApi.kind new = calls.kind ∧ new.holders = 0 ∧
    ∀ key', key' ≠ key →
      (obtainBy countedApi c calls key limit).2.locks key' = c.locks key'

/-- INTERNAL: every method is the common body, with its own kind and its own new lock.
SOURCE: redis-client.ts:54-84 -/
theorem obtainBy_eq {L : Type} (api : LockApi L) (c : Client L) (m : ObtainMethod)
    (key : String) (limit : ℕ) :
    obtainBy api c m key limit = obtain api c m.kind (m.creates key limit) := by
  cases m <;> rfl

/-- INTERNAL: a lock is created for the key that was asked for. SOURCE: redis-client.ts:54-84 -/
theorem creates_key (m : ObtainMethod) (key : String) (limit : ℕ) :
    (m.creates key limit).key = key := by
  cases m <;> rfl

/-- INTERNAL: a method's lock has the kind it asks for, except that of `obtainMultiSemaphore`,
which has the kind of `obtainSemaphore`. SOURCE: redis-client.ts:74-84 -/
theorem kind_creates_iff (m calls : ObtainMethod) (key : String) (limit : ℕ) :
    (m.creates key limit).cls.kind = calls.kind ↔
      calls = .mutex ∧ m = .mutex ∨ calls = .semaphore ∧ m ≠ .mutex := by
  cases m <;> cases calls <;> simp [ObtainMethod.creates, LockClass.kind, ObtainMethod.kind]

section

variable {c : Client CountedLock} {registeredBy : ObtainMethod} {key : String} {h : ℕ}
  {o : CountedLock}

/-- INTERNAL: **a held entry** is handed out or refused by its kind alone.
SOURCE: redis-client.ts:40-52 -/
theorem obtainBy_held (hentry : c.entry key = some (h, o)) (hheld : 0 < o.holders)
    (calls : ObtainMethod) (limit : ℕ) :
    (obtainBy countedApi c calls key limit = (.ok h, c) ↔ countedApi.kind o = calls.kind) ∧
      ((∃ message, obtainBy countedApi c calls key limit = (.error message, c)) ↔
        countedApi.kind o ≠ calls.kind) := by
  have huse : countedApi.inUse o = true := (inUse_iff o).mpr hheld
  have hentry' : c.entry (calls.creates key limit).key = some (h, o) := by
    rw [creates_key]
    exact hentry
  rw [obtainBy_eq]
  by_cases hkind : countedApi.kind o = calls.kind
  · have hshared := obtain_shared countedApi hentry' huse hkind
    refine ⟨iff_of_true hshared hkind, iff_of_false ?_ (not_not_intro hkind)⟩
    rintro ⟨message, herror⟩
    rw [hshared] at herror
    cases herror
  · have hrefused := obtain_refused countedApi hentry' huse hkind
    refine ⟨iff_of_false ?_ hkind, iff_of_true ⟨_, hrefused⟩ hkind⟩
    intro hok
    rw [hrefused] at hok
    cases hok

/-- INTERNAL: **an idle entry** is replaced by the lock that the method creates.
SOURCE: redis-client.ts:49-60 -/
theorem obtainBy_idle (hentry : c.entry key = some (h, o)) (hidle : o.holders = 0)
    (calls : ObtainMethod) (limit : ℕ) :
    (obtainBy countedApi c calls key limit).1 = .ok c.heap.length ∧
      (obtainBy countedApi c calls key limit).2.entry key =
        some (c.heap.length, countedApi.sharedLock (calls.creates key limit)) ∧
      ∀ key', key' ≠ key →
        (obtainBy countedApi c calls key limit).2.locks key' = c.locks key' := by
  have hfree : ∀ h' o', c.entry (calls.creates key limit).key = some (h', o') →
      countedApi.inUse o' = false := by
    intro h' o' hentry'
    rw [creates_key, hentry] at hentry'
    cases hentry'
    simp [LockApi.inUse, countedApi, hidle]
  rw [obtainBy_eq, obtain_created countedApi hfree, creates_key]
  refine ⟨rfl, ?_, ?_⟩
  · apply (entry_eq_some_iff _ _ _ _).mpr
    exact ⟨Function.update_self _ _ _, List.getElem?_concat_length⟩
  · intro key' hkey'
    exact Function.update_of_ne hkey' _ _

/-- INTERNAL: the kind of an entry that a method has registered.
SOURCE: redis-client.ts:54-84 -/
theorem kind_registered_iff {limit : ℕ}
    (hregistered : o.lock = registeredBy.creates key limit) (calls : ObtainMethod) :
    countedApi.kind o = calls.kind ↔
      calls = .mutex ∧ registeredBy = .mutex ∨ calls = .semaphore ∧ registeredBy ≠ .mutex := by
  show o.lock.cls.kind = _ ↔ _
  rw [hregistered]
  exact kind_creates_iff registeredBy calls key limit

/-- INTERNAL: a new lock is of the kind asked for, except that of `obtainMultiSemaphore`.
SOURCE: redis-client.ts:74-84 -/
theorem kind_new_iff (calls : ObtainMethod) (limit : ℕ) :
    countedApi.kind (countedApi.sharedLock (calls.creates key limit)) = calls.kind ↔
      calls ≠ .multiSemaphore := by
  refine (kind_creates_iff calls calls key limit).trans ?_
  cases calls <;> simp

/-- INTERNAL: the kinds tell the registering method from the other two, except for an entry of
`obtainMultiSemaphore`: it passes for one of `obtainSemaphore`. -/
theorem kinds_tell_iff {kindsMatch : Prop} {registeredBy calls : ObtainMethod}
    (hkind : kindsMatch ↔
      calls = .mutex ∧ registeredBy = .mutex ∨ calls = .semaphore ∧ registeredBy ≠ .mutex) :
    ((calls = registeredBy → kindsMatch) ∧ (calls ≠ registeredBy → ¬ kindsMatch)) ↔
      registeredBy ≠ .multiSemaphore ∨ calls = .mutex := by
  rw [hkind]
  cases registeredBy <;> cases calls <;> simp

/-- INTERNAL: the replacement of an idle entry is as asked when the new lock is of the kind
asked for. SOURCE: redis-client.ts:49-60 -/
theorem replaced_iff (hentry : c.entry key = some (h, o)) (hidle : o.holders = 0)
    (calls : ObtainMethod) (limit : ℕ) :
    (∃ h' new, c.heap[h']? = none ∧
        (obtainBy countedApi c calls key limit).1 = .ok h' ∧
        (obtainBy countedApi c calls key limit).2.entry key = some (h', new) ∧
        countedApi.kind new = calls.kind ∧ new.holders = 0 ∧
        ∀ key', key' ≠ key →
          (obtainBy countedApi c calls key limit).2.locks key' = c.locks key') ↔
      calls ≠ .multiSemaphore := by
  obtain ⟨hok, hnew, hothers⟩ := obtainBy_idle hentry hidle calls limit
  constructor
  · rintro ⟨h', new, -, -, hnew', hkind, -⟩
    rw [hnew] at hnew'
    cases hnew'
    exact (kind_new_iff calls limit).mp hkind
  · intro hcalls
    refine ⟨_, _, ?_, hok, hnew, (kind_new_iff calls limit).mpr hcalls, rfl, hothers⟩
    exact List.getElem?_eq_none (Nat.le_refl _)

end

/-- **Kinds are respected**, for an entry that a method has registered and a call of any method
on its key, exactly when the entry was not registered by `obtainMultiSemaphore` or the call is
`obtainMutex` while it is held, and when the call is not `obtainMultiSemaphore` while it is
not. SOURCE: redis-client.ts:40-84 -/
theorem respectsKind_iff {c : Client CountedLock} {registeredBy : ObtainMethod} {key : String}
    {h : ℕ} {o : CountedLock} (hentry : c.entry key = some (h, o)) {limit₀ : ℕ}
    (hregistered : o.lock = registeredBy.creates key limit₀) (calls : ObtainMethod) (limit : ℕ) :
    RespectsKind c registeredBy calls key limit h o ↔
      (0 < o.holders → registeredBy ≠ .multiSemaphore ∨ calls = .mutex) ∧
      (o.holders = 0 → calls ≠ .multiSemaphore) := by
  have htell := kinds_tell_iff (kind_registered_iff hregistered calls)
  constructor
  · rintro ⟨hshared, hrefused, hreplaced⟩
    constructor
    · intro hheld
      obtain ⟨hok, herror⟩ := obtainBy_held hentry hheld calls limit
      apply htell.mp
      exact ⟨fun hsame => hok.mp (hshared hheld hsame),
        fun hother => herror.mp (hrefused hheld hother)⟩
    · intro hidle
      exact (replaced_iff hentry hidle calls limit).mp (hreplaced hidle)
  · rintro ⟨hheldOk, hidleOk⟩
    refine ⟨?_, ?_, ?_⟩
    · intro hheld hsame
      apply (obtainBy_held hentry hheld calls limit).1.mpr
      exact (htell.mpr (hheldOk hheld)).1 hsame
    · intro hheld hother
      apply (obtainBy_held hentry hheld calls limit).2.mpr
      exact (htell.mpr (hheldOk hheld)).2 hother
    · intro hidle
      exact (replaced_iff hentry hidle calls limit).mpr (hidleOk hidle)

/-- A client with one lock, registered by a method and held by one. -/
def clientWith (m : ObtainMethod) (holders : ℕ) : Client CountedLock :=
  ⟨[⟨m.creates "k" 2, holders⟩], fun key => if key = "k" then some 0 else none⟩

/-- A held mutex, asked for as a semaphore. -/
theorem respectsKind_mutex :
    RespectsKind (clientWith .mutex 1) .mutex .semaphore "k" 3 0 ⟨.mk .mutex "k" none, 1⟩ ↔
      (0 < 1 → ObtainMethod.mutex ≠ .multiSemaphore ∨ ObtainMethod.semaphore = .mutex) ∧
      (1 = 0 → ObtainMethod.semaphore ≠ .multiSemaphore) :=
  @respectsKind_iff _ .mutex "k" _ _ rfl 2 rfl .semaphore 3

/-- A held multi-semaphore is refused to the method that registered it and handed out as a
semaphore. -/
theorem held_multiSemaphore_rejects_itself :
    let c := clientWith .multiSemaphore 1
    (obtainMultiSemaphore countedApi c "k" 2).1.toOption = none ∧
      (obtainSemaphore countedApi c "k" 2).1.toOption = some 0 ∧
      ¬ RespectsKind c .multiSemaphore .multiSemaphore "k" 2 0
        ⟨.mk .semaphore "k" (some 2), 1⟩ := by
  refine ⟨rfl, rfl, fun h => ?_⟩
  have hshared := congrArg (fun r => r.1.toOption) (h.shared Nat.one_pos rfl)
  exact absurd hshared (by decide)

end Xnestjs.Analysis
