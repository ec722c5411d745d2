import Xnestjs.Program.AwaitedCalls
import Mathlib.Logic.Function.Basic

/-!
# The lock registry of `RedisClient`

`RedisClient` keeps a map from keys to the locks it has handed out. `_getLock` returns the
registered lock of a key while it is in use, refuses to hand it out as another kind, and
drops it when it is idle; the `obtain` methods create and register a new lock when there is
none. The registry reads two things of a lock object, `refCount` and `_kind`, so it is
written over any type of lock objects with these two (`LockApi`). Lock objects live in a
heap of the client in the order in which they were created, and a handle is an index into
it.

The second half says which object `sharedLock` returns, and what a call on it does.
-/

set_option autoImplicit false

namespace Xnestjs.Program.RedisClient

open Xnestjs.Model Xnestjs.Program.SharedLock

/-- The classes of redis-semaphore that the client instantiates. -/
inductive LockClass where
  | mutex
  | semaphore
  deriving DecidableEq, Repr

/-- `_kind` of the instances of a class, as redis-semaphore sets it. -/
def LockClass.kind : LockClass → String
  | .mutex => "mutex"
  | .semaphore => "semaphore"

/-- `new Mutex(redis, key, options)` or `new Semaphore(redis, key, limit, options)`. The
options only go to the instance, nothing here reads them. -/
structure RedisLock where
  cls : LockClass
  key : String
  limit : Option ℕ
  deriving DecidableEq, Repr

/-- What the registry uses of lock objects of type `L`: the wrapper around a new lock, and
two properties. A `refCount` of `none` is `undefined`. -/
structure LockApi (L : Type) where
  sharedLock : RedisLock → L
  refCount : L → Option ℤ
  kind : L → String

/-- The lock objects created so far and the map `locks` from keys to handles. -/
structure Client (L : Type) where
  heap : List L
  locks : String → Option ℕ

/-- A client has no locks at first. SOURCE: redis-client.ts:18 -/
def Client.fresh {L : Type} : Client L := ⟨[], fun _ => none⟩

section

variable {L : Type} (api : LockApi L)

/-- `lock.refCount > 0`; a comparison with `undefined` is false. -/
def LockApi.inUse (lock : L) : Bool :=
  match api.refCount lock with
  | some n => 0 < n
  | none => false

def Client.entry (c : Client L) (key : String) : Option (ℕ × L) :=
  (c.locks key).bind fun h => c.heap[h]?.map fun lock => (h, lock)

def inUseMessage (key kind : String) : String :=
  "Lock \"" ++ key ++ "\" is already in use by a different kind of lock (" ++ kind ++ ")"

/-- `_getLock(kind, key)`. SOURCE: redis-client.ts:40-52 -/
def getLock (c : Client L) (kind key : String) : Except String (Option ℕ) × Client L :=
  match c.entry key with
  | none => (.ok none, c)
  | some (h, lock) =>
    if api.inUse lock then
      if api.kind lock ≠ kind then (.error (inUseMessage key (api.kind lock)), c)
      else (.ok (some h), c)
    else (.ok none, { c with locks := Function.update c.locks key none })

/-- The common body of the `obtain` methods: return what `_getLock` finds, else create a
lock and register it. -/
def obtain (c : Client L) (kind : String) (lock : RedisLock) : Except String ℕ × Client L :=
  match getLock api c kind lock.key with
  | (.error message, c) => (.error message, c)
  | (.ok (some h), c) => (.ok h, c)
  | (.ok none, c) =>
    (.ok c.heap.length, ⟨c.heap ++ [api.sharedLock lock],
      Function.update c.locks lock.key (some c.heap.length)⟩)

/-- `obtainMutex(key)`. SOURCE: redis-client.ts:54-60 -/
def obtainMutex (c : Client L) (key : String) : Except String ℕ × Client L :=
  obtain api c "mutex" ⟨.mutex, key, none⟩

/-- `obtainSemaphore(key, limit)`. SOURCE: redis-client.ts:62-72 -/
def obtainSemaphore (c : Client L) (key : String) (limit : ℕ) : Except String ℕ × Client L :=
  obtain api c "semaphore" ⟨.semaphore, key, some limit⟩

/-- `obtainMultiSemaphore(key, limit)`: it asks for another kind than the one its class
carries. SOURCE: redis-client.ts:74-84 -/
def obtainMultiSemaphore (c : Client L) (key : String) (limit : ℕ) :
    Except String ℕ × Client L :=
  obtain api c "multi-semaphore" ⟨.semaphore, key, some limit⟩

/-! ## The three outcomes of an `obtain` -/

/-- A lock that is in use and of the kind asked for is shared. -/
theorem obtain_shared {c : Client L} {kind : String} {lock : RedisLock} {h : ℕ} {o : L}
    (hentry : c.entry lock.key = some (h, o)) (huse : api.inUse o = true)
    (hkind : api.kind o = kind) : obtain api c kind lock = (.ok h, c) := by
  unfold obtain getLock
  simp [hentry, huse, hkind]

/-- One of another kind is refused. -/
theorem obtain_refused {c : Client L} {kind : String} {lock : RedisLock} {h : ℕ} {o : L}
    (hentry : c.entry lock.key = some (h, o)) (huse : api.inUse o = true)
    (hkind : api.kind o ≠ kind) :
    obtain api c kind lock = (.error (inUseMessage lock.key (api.kind o)), c) := by
  unfold obtain getLock
  simp [hentry, huse, hkind]

/-- Without a lock in use, one is created and registered. -/
theorem obtain_created {c : Client L} {kind : String} {lock : RedisLock}
    (hidle : ∀ h o, c.entry lock.key = some (h, o) → api.inUse o = false) :
    obtain api c kind lock = (.ok c.heap.length, ⟨c.heap ++ [api.sharedLock lock],
      Function.update c.locks lock.key (some c.heap.length)⟩) := by
  unfold obtain getLock
  cases hentry : c.entry lock.key with
  | none => rfl
  | some ho =>
    obtain ⟨h, o⟩ := ho
    simp [hidle h o hentry]

/-- **Every `obtain`** returns the lock in use, throws because of its kind, or registers a
new one. -/
theorem obtain_cases (c : Client L) (kind : String) (lock : RedisLock) :
    (∃ h o, c.entry lock.key = some (h, o) ∧ api.inUse o = true ∧ api.kind o = kind ∧
      obtain api c kind lock = (.ok h, c)) ∨
    (∃ h o, c.entry lock.key = some (h, o) ∧ api.inUse o = true ∧ api.kind o ≠ kind ∧
      obtain api c kind lock = (.error (inUseMessage lock.key (api.kind o)), c)) ∨
    ((∀ h o, c.entry lock.key = some (h, o) → api.inUse o = false) ∧
      obtain api c kind lock = (.ok c.heap.length, ⟨c.heap ++ [api.sharedLock lock],
        Function.update c.locks lock.key (some c.heap.length)⟩)) := by
  by_cases hidle : ∀ h o, c.entry lock.key = some (h, o) → api.inUse o = false
  · exact Or.inr (Or.inr ⟨hidle, obtain_created api hidle⟩)
  · simp only [not_forall, Bool.not_eq_false] at hidle
    obtain ⟨h, o, hentry, huse⟩ := hidle
    by_cases hkind : api.kind o = kind
    · exact Or.inl ⟨h, o, hentry, huse, hkind, obtain_shared api hentry huse hkind⟩
    · exact Or.inr (Or.inl ⟨h, o, hentry, huse, hkind, obtain_refused api hentry huse hkind⟩)

end

/-! ## What `sharedLock` returns -/

/-- The two objects in play: the counting object `_sharedLock`, whose prototype is the lock
it wraps, and that lock itself. -/
inductive Handle where
  | counting (refCount : ℤ) (lock : RedisLock)
  | plain (lock : RedisLock)
  deriving DecidableEq, Repr

def Handle.lock : Handle → RedisLock
  | .counting _ lock => lock
  | .plain lock => lock

/-- `sharedLock(lock)` builds the counting object, with `_refCount` 0 and prototype `lock`,
and returns `lock`: the built object comes first here, the returned one second.
SOURCE: shared-lock.ts:4-69 -/
def sharedLock (lock : RedisLock) : Handle × Handle := (.counting 0 lock, .plain lock)

/-- The property `refCount` of an object: the getter of the counting object; a lock of
redis-semaphore has no such property. SOURCE: shared-lock.ts:7-9 -/
def Handle.refCount : Handle → Option ℤ
  | .counting refCount _ => some refCount
  | .plain _ => none

/-- The lock objects of the package. `_kind` is found on the lock, for the counting object
through its prototype. -/
def sharedLockApi : LockApi Handle where
  sharedLock lock := (sharedLock lock).2
  refCount := Handle.refCount
  kind h := h.lock.cls.kind

/-- One awaited call on an object, the underlying operations succeeding: the object
afterwards, the operations asked of the underlying lock, and whether a hold was granted. A
call on the lock itself is the operation of the lock. -/
def Handle.invoke : Handle → Call → Handle × List LockOp × Bool
  | .counting refCount lock, c =>
    let (w, call) := awaitCall succeed ⟨refCount, []⟩ c
    (.counting w.state lock, call.asked.map Prod.fst, call.granted)
  | .plain lock, c => (.plain lock, [opOf c], opOf c != .release)

end Xnestjs.Program.RedisClient
