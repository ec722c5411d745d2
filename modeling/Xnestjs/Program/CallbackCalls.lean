import Xnestjs.Program.ConcurrentCalls

/-!
# Callback forms of the shared lock, interleaved

Any number of callers call `acquire(callback)` and `tryAcquire(callback)` without waiting for each
other. To the lock object a callback is one more thing to await: it is called once the lock is
granted, it settles at any later moment, and the `finally` releases. What it does in between, calls
of the same object among it, is part of the interleaving.

Without the callbacks the interleaving is one of plain calls (`plain_step`): each form acquires
when it is called and releases when its callback settles, and it is granted in between.
-/

set_option autoImplicit false

namespace Xnestjs.Program.SharedLock

open Xnestjs.Model

variable {ε : Type}

/-- What a form awaits: an operation of the underlying lock, or its callback. -/
inductive FormOp where
  | lock (op : LockOp)
  | callback
  deriving DecidableEq, Repr

abbrev FormBody (ε α : Type) := Async ℤ FormOp Bool ε α

/-- `try { return await callback(); } finally { await this.release(); }`
SOURCE: shared-lock.ts:14-18, 31-35 -/
def bracketForm : FormBody ε Bool :=
  Async.tryFinally (Async.perform .callback) ((release false).lift .lock)

/-- `acquire(callback)`. SOURCE: shared-lock.ts:12-19 -/
def acquireForm : FormBody ε Bool := do
  acquire.lift .lock
  bracketForm

/-- `tryAcquire(callback)`. SOURCE: shared-lock.ts:29-36 -/
def tryAcquireForm : FormBody ε Bool := do
  if !(← tryAcquire.lift .lock) then return false
  bracketForm

/-! ## One segment of each form -/

/-- How a form goes on when its callback settles. -/
def afterCallback (outcome : Except ε Bool) : FormBody ε Bool :=
  ((release false).lift .lock).bind fun _ => .done outcome

def runCallback : FormBody ε Bool := .await .callback afterCallback

/-- How `acquire(callback)` goes on when the underlying lock answers. -/
def afterAcquireForm : Except ε Bool → FormBody ε Bool
  | .ok _ => runCallback
  | .error e => .done (.error e)

/-- How `tryAcquire(callback)` goes on when the underlying lock answers. -/
def afterTryAcquireForm : Except ε Bool → FormBody ε Bool
  | .ok true => runCallback
  | .ok false => .write (-1) (.done (.ok false))
  | .error e => .done (.error e)

/-- How the release of the `finally` goes on; `outcome` is that of the callback. -/
def afterReleaseForm (outcome : Except ε Bool) : Except ε Bool → FormBody ε Bool
  | .ok _ => .done outcome
  | .error _ => .read fun refCount => .write (refCount - 1) (.done outcome)

/-- The first segment of `acquire(callback)`. -/
theorem advance_acquireForm (r : ℤ) :
    (acquireForm : FormBody ε Bool).advance r =
      if r ≤ 0 then (1, .suspended (.lock .acquire) afterAcquireForm)
      else (r + 1, .suspended .callback afterCallback) := by
  unfold acquireForm SharedLock.acquire
  split_ifs with h
  · simp [h]
    funext x
    cases x <;> rfl
  · simp [h]
    rfl

/-- The first segment of `tryAcquire(callback)`. -/
theorem advance_tryAcquireForm (r : ℤ) :
    (tryAcquireForm : FormBody ε Bool).advance r =
      if r ≤ 0 then (1, .suspended (.lock .tryAcquire) afterTryAcquireForm)
      else (r + 1, .suspended .callback afterCallback) := by
  unfold tryAcquireForm tryAcquire
  split_ifs with h
  · simp [h]
    funext x
    rcases x with e | b
    · rfl
    · cases b <;> rfl
  · simp [h]
    rfl

/-- A granted form calls its callback at once. -/
theorem advance_runCallback (r : ℤ) :
    (runCallback : FormBody ε Bool).advance r = (r, .suspended .callback afterCallback) := rfl

/-- A form whose callback has settled releases, and keeps its outcome. -/
theorem advance_afterCallback (outcome : Except ε Bool) (r : ℤ) :
    (afterCallback outcome).advance r =
      if r ≤ 0 then (r, .finished outcome)
      else if r = 1 then (-1, .suspended (.lock .release) (afterReleaseForm outcome))
      else (r - 1, .finished outcome) := by
  unfold afterCallback release
  split_ifs with h hlast
  · simp [h]
  · simp [hlast]
    funext x
    cases x <;> rfl
  · simp [h, hlast]
    rfl

/-! ## Forms in flight -/

/-- The counter with the forms in flight, the callers whose callbacks run, and whether the
underlying lock is held: an acquisition of it has completed and no release been issued since. -/
structure Forms (ε : Type) where
  pool : Pool ℤ FormOp Bool ε Bool ℕ
  running : List ℕ
  held : Bool

abbrev Forms.refCount (s : Forms ε) : ℤ := s.pool.shared

def freshForms : Forms ε := ⟨⟨0, []⟩, [], false⟩

/-- A caller calls one of the forms, or what the `i`-th form in flight awaits settles. -/
inductive FormEvent (ε : Type) where
  | acquire (caller : ℕ)
  | tryAcquire (caller : ℕ)
  | settle (i : ℕ) (outcome : Except ε Bool)

/-- What a segment shows: a callback is called, or a release of the underlying lock is issued. -/
def Forms.observe (s : Forms ε) : Observation FormOp ε Bool ℕ → Forms ε
  | .issued caller .callback => { s with running := caller :: s.running }
  | .issued _ (.lock .release) => { s with held := false }
  | _ => s

def Forms.call (s : Forms ε) (caller : ℕ) (body : FormBody ε Bool) : Forms ε :=
  let (pool, seen) := s.pool.start caller body
  { s with pool := pool }.observe seen

/-- What the settling of an operation shows before the form goes on. -/
def Forms.settled (s : Forms ε) (caller : ℕ) (outcome : Except ε Bool) : FormOp → Forms ε
  | .callback => { s with running := s.running.erase caller }
  | .lock op => { s with held := s.held || succeeded op outcome }

/-- One step of an interleaving of forms. -/
def formStep (s : Forms ε) : FormEvent ε → Option (Forms ε)
  | .acquire c => some (s.call c acquireForm)
  | .tryAcquire c => some (s.call c tryAcquireForm)
  | .settle i outcome =>
    s.pool.inFlight[i]?.bind fun task =>
      (s.pool.settle i outcome).map fun (op, pool, seen) =>
        { s.settled task.tag outcome op with pool := pool }.observe seen

/-! ## The plain calls of an interleaving -/

abbrev FormTask (ε : Type) := Task ℤ FormOp Bool ε Bool ℕ

/-- A form that waits for the underlying lock, as the plain call that it is in. -/
def plainTask (task : FormTask ε) : Option (Task ℤ LockOp Bool ε Bool Tag) :=
  match task.op with
  | .lock .acquire => some ⟨(task.tag, .acquire), .acquire, afterAcquire⟩
  | .lock .tryAcquire => some ⟨(task.tag, .tryAcquire), .tryAcquire, afterTryAcquire⟩
  | .lock .release => some ⟨(task.tag, .release false), .release, afterRelease⟩
  | .callback => none

/-- The state of the plain calls: the callers whose callbacks run are granted. -/
def Forms.plain (s : Forms ε) : Concurrent ε :=
  ⟨⟨s.pool.shared, s.pool.inFlight.filterMap plainTask⟩, s.running, s.held⟩

/-- A form acquires when it is called, and releases when its callback settles. -/
def plainEvent (s : Forms ε) : FormEvent ε → CallEvent ε
  | .acquire c => .acquire c
  | .tryAcquire c => .tryAcquire c
  | .settle i outcome =>
    let settled := .settle ((s.pool.inFlight.take i).filterMap plainTask).length outcome
    match s.pool.inFlight[i]? with
    | none => settled
    | some task =>
      match task.op with
      | .callback => .release task.tag
      | .lock _ => settled

/-- How a form that waits for an operation goes on. -/
def Suspended (task : FormTask ε) : Prop :=
  match task.op with
  | .lock .acquire => task.resume = afterAcquireForm
  | .lock .tryAcquire => task.resume = afterTryAcquireForm
  | .lock .release => ∃ outcome, task.resume = afterReleaseForm outcome
  | .callback => task.resume = afterCallback

/-- The caller of a form whose callback runs. -/
def runningCaller (task : FormTask ε) : Option ℕ :=
  match task.op with
  | .callback => some task.tag
  | .lock _ => none

/-- Every form in flight is at one of the suspensions of the code, and the running callbacks are
those of the forms that wait for them. -/
structure FlightWellFormed (l : List (FormTask ε)) (running : List ℕ) : Prop where
  suspended : ∀ task ∈ l, Suspended task
  running : running.Perm (l.filterMap runningCaller)

abbrev FormsWellFormed (s : Forms ε) : Prop := FlightWellFormed s.pool.inFlight s.running

/-! ## What each step does -/

/-- How the state changes when `acquire(callback)` is called. -/
theorem formStep_acquire (s : Forms ε) (c : ℕ) :
    formStep s (.acquire c) = some (if s.refCount ≤ 0 then
        { s with pool := ⟨1, s.pool.inFlight ++ [⟨c, .lock .acquire, afterAcquireForm⟩]⟩ }
      else { s with
        pool := ⟨s.refCount + 1, s.pool.inFlight ++ [⟨c, .callback, afterCallback⟩]⟩
        running := c :: s.running }) := by
  simp only [formStep, Forms.call, Pool.start, advance_acquireForm]
  split_ifs <;> rfl

/-- How the state changes when `tryAcquire(callback)` is called. -/
theorem formStep_tryAcquire (s : Forms ε) (c : ℕ) :
    formStep s (.tryAcquire c) = some (if s.refCount ≤ 0 then
        { s with
          pool := ⟨1, s.pool.inFlight ++ [⟨c, .lock .tryAcquire, afterTryAcquireForm⟩]⟩ }
      else { s with
        pool := ⟨s.refCount + 1, s.pool.inFlight ++ [⟨c, .callback, afterCallback⟩]⟩
        running := c :: s.running }) := by
  simp only [formStep, Forms.call, Pool.start, advance_tryAcquireForm]
  split_ifs <;> rfl

/-- Nothing settles that is not in flight. -/
theorem formStep_settle_none {s : Forms ε} {i : ℕ} (h : s.pool.inFlight[i]? = none)
    (outcome : Except ε Bool) : formStep s (.settle i outcome) = none := by
  simp [formStep, h]

section

variable {s : Forms ε} {i : ℕ} {task : FormTask ε}

/-- An acquisition of the underlying lock settles: the callback is called when it took the
lock. -/
theorem formStep_acquired (htask : s.pool.inFlight[i]? = some task) {op : LockOp}
    (hop : task.op = .lock op) (hrelease : op ≠ .release) (hsuspended : Suspended task)
    (outcome : Except ε Bool) :
    formStep s (.settle i outcome) = some
      ⟨⟨settledCount op outcome s.refCount, s.pool.inFlight.eraseIdx i ++
          if succeeded op outcome then [⟨task.tag, .callback, afterCallback⟩] else []⟩,
        if succeeded op outcome then task.tag :: s.running else s.running,
        s.held || succeeded op outcome⟩ := by
  have hresume : task.resume = match op with
      | .acquire => afterAcquireForm
      | _ => afterTryAcquireForm := by
    unfold Suspended at hsuspended
    rw [hop] at hsuspended
    cases op with
    | acquire => exact hsuspended
    | tryAcquire => exact hsuspended
    | release => exact absurd rfl hrelease
  simp only [formStep, Pool.settle, htask, Option.bind_some, Option.map_some, hop, hresume]
  cases op with
  | release => exact absurd rfl hrelease
  | acquire =>
    cases outcome with
    | error e => simp [afterAcquireForm, Forms.settled, Forms.observe, succeeded, settledCount]
    | ok b =>
      simp [afterAcquireForm, advance_runCallback, Forms.settled, Forms.observe, succeeded,
        settledCount]
  | tryAcquire =>
    rcases outcome with e | b
    · simp [afterTryAcquireForm, Forms.settled, Forms.observe, succeeded, settledCount]
    · cases b <;>
        simp [afterTryAcquireForm, advance_runCallback, Forms.settled, Forms.observe, succeeded,
          settledCount]

/-- The callback settles: its caller releases. -/
theorem formStep_callback (htask : s.pool.inFlight[i]? = some task)
    (hop : task.op = .callback) (hsuspended : Suspended task) (outcome : Except ε Bool) :
    formStep s (.settle i outcome) = some (if s.refCount ≤ 0 then
        ⟨⟨s.refCount, s.pool.inFlight.eraseIdx i⟩, s.running.erase task.tag, s.held⟩
      else if s.refCount = 1 then
        ⟨⟨-1, s.pool.inFlight.eraseIdx i ++
            [⟨task.tag, .lock .release, afterReleaseForm outcome⟩]⟩,
          s.running.erase task.tag, false⟩
      else ⟨⟨s.refCount - 1, s.pool.inFlight.eraseIdx i⟩, s.running.erase task.tag, s.held⟩) := by
  have hresume : task.resume = afterCallback := by
    unfold Suspended at hsuspended
    rwa [hop] at hsuspended
  simp only [formStep, Pool.settle, htask, Option.bind_some, Option.map_some, hop, hresume,
    advance_afterCallback]
  split_ifs <;> rfl

/-- The release of the underlying lock settles: the form ends. -/
theorem formStep_released (htask : s.pool.inFlight[i]? = some task)
    (hop : task.op = .lock .release) (hsuspended : Suspended task) (outcome : Except ε Bool) :
    formStep s (.settle i outcome) = some
      ⟨⟨settledCount .release outcome s.refCount, s.pool.inFlight.eraseIdx i⟩, s.running,
        s.held⟩ := by
  have hresume : ∃ result, task.resume = afterReleaseForm result := by
    unfold Suspended at hsuspended
    rwa [hop] at hsuspended
  obtain ⟨result, hresume⟩ := hresume
  simp only [formStep, Pool.settle, htask, Option.bind_some, Option.map_some, hop, hresume]
  cases outcome <;> simp [afterReleaseForm, Forms.settled, Forms.observe, succeeded, settledCount]

end

/-- The forms after what `task` awaits has settled. -/
inductive Settlement (s : Forms ε) (i : ℕ) (outcome : Except ε Bool) (task : FormTask ε) :
    Forms ε → Prop
  | callback (hop : task.op = .callback) :
    Settlement s i outcome task (if s.refCount ≤ 0 then
        ⟨⟨s.refCount, s.pool.inFlight.eraseIdx i⟩, s.running.erase task.tag, s.held⟩
      else if s.refCount = 1 then
        ⟨⟨-1, s.pool.inFlight.eraseIdx i ++
            [⟨task.tag, .lock .release, afterReleaseForm outcome⟩]⟩,
          s.running.erase task.tag, false⟩
      else ⟨⟨s.refCount - 1, s.pool.inFlight.eraseIdx i⟩, s.running.erase task.tag, s.held⟩)
  | acquired (op : LockOp) (hop : task.op = .lock op) (hrelease : op ≠ .release) :
    Settlement s i outcome task
      ⟨⟨settledCount op outcome s.refCount, s.pool.inFlight.eraseIdx i ++
          if succeeded op outcome then [⟨task.tag, .callback, afterCallback⟩] else []⟩,
        if succeeded op outcome then task.tag :: s.running else s.running,
        s.held || succeeded op outcome⟩
  | released (hop : task.op = .lock .release) :
    Settlement s i outcome task
      ⟨⟨settledCount .release outcome s.refCount, s.pool.inFlight.eraseIdx i⟩, s.running, s.held⟩

/-- **What settles** is a callback, an acquisition or a release. -/
theorem settlement_of_step {s t : Forms ε} (h : ∀ task ∈ s.pool.inFlight, Suspended task) {i : ℕ}
    {outcome : Except ε Bool} (hst : formStep s (.settle i outcome) = some t) :
    ∃ task, s.pool.inFlight[i]? = some task ∧ Settlement s i outcome task t := by
  cases htask : s.pool.inFlight[i]? with
  | none => simp [formStep_settle_none htask] at hst
  | some task =>
    have hsuspended := h task (List.mem_of_getElem? htask)
    refine ⟨task, rfl, ?_⟩
    cases hop : task.op with
    | callback =>
      rw [formStep_callback htask hop hsuspended] at hst
      cases hst
      exact .callback hop
    | lock op =>
      by_cases hrelease : op = .release
      · subst hrelease
        rw [formStep_released htask hop hsuspended] at hst
        cases hst
        exact .released hop
      · rw [formStep_acquired htask hop hrelease hsuspended] at hst
        cases hst
        exact .acquired op hop hrelease

/-! ## The plain calls do the same -/

section

variable {α β : Type} {f : α → Option β} {l : List α} {i : ℕ} {a : α}

/-- What is mapped of a list, at one of its places. -/
theorem filterMap_split (h : l[i]? = some a) :
    l.filterMap f = (l.take i).filterMap f ++ (f a).toList ++ (l.drop (i + 1)).filterMap f := by
  obtain ⟨hlt, rfl⟩ := List.getElem?_eq_some_iff.mp h
  conv_lhs => rw [← List.take_append_drop i l, List.drop_eq_getElem_cons hlt]
  rw [List.filterMap_append, List.append_assoc]
  cases hf : f l[i] with
  | none => rw [List.filterMap_cons_none hf, Option.toList_none, List.nil_append]
  | some b => rw [List.filterMap_cons_some hf, Option.toList_some, List.singleton_append]

/-- And without that place. -/
theorem filterMap_eraseIdx (i : ℕ) :
    (l.eraseIdx i).filterMap f = (l.take i).filterMap f ++ (l.drop (i + 1)).filterMap f := by
  rw [List.eraseIdx_eq_take_drop_succ, List.filterMap_append]

/-- What is not mapped can be erased before. -/
theorem filterMap_eraseIdx_of_none (h : l[i]? = some a) (hf : f a = none) :
    (l.eraseIdx i).filterMap f = l.filterMap f := by
  rw [filterMap_eraseIdx, filterMap_split h, hf, Option.toList_none, List.append_nil]

/-- What is mapped is found among the images behind those of the elements before it. -/
theorem getElem?_filterMap_of_some (h : l[i]? = some a) {b : β} (hf : f a = some b) :
    (l.filterMap f)[((l.take i).filterMap f).length]? = some b := by
  rw [filterMap_split h, hf]
  simp

/-- And can be erased before or after. -/
theorem filterMap_eraseIdx_of_some (h : l[i]? = some a) {b : β} (hf : f a = some b) :
    (l.eraseIdx i).filterMap f =
      (l.filterMap f).eraseIdx ((l.take i).filterMap f).length := by
  rw [filterMap_eraseIdx, filterMap_split h, hf, List.append_assoc,
    List.eraseIdx_append_of_length_le (Nat.le_refl _)]
  simp

end

/-- Forms without their callbacks are plain calls in flight. -/
theorem wellFormed_plain (s : Forms ε) : WellFormed s.plain := by
  intro u hu
  obtain ⟨task, -, htask⟩ := List.mem_filterMap.mp hu
  unfold plainTask at htask
  split at htask
  · cases htask
    rfl
  · cases htask
    rfl
  · cases htask
    rfl
  · cases htask

/-- At the start nothing is in flight. -/
theorem formsWellFormed_fresh : FormsWellFormed (freshForms : Forms ε) :=
  ⟨fun _ h => absurd h List.not_mem_nil, List.Perm.refl _⟩

namespace FlightWellFormed

variable {l : List (FormTask ε)} {running : List ℕ} {i : ℕ} {task : FormTask ε}

/-- A form joins the others at one of its suspensions. -/
theorem joined (h : FlightWellFormed l running) (task : FormTask ε) (htask : Suspended task) :
    FlightWellFormed (l ++ [task]) ((runningCaller task).toList ++ running) := by
  constructor
  · intro u hu
    rcases List.mem_append.mp hu with hu | hu
    · exact h.suspended u hu
    · rw [List.mem_singleton.mp hu]
      exact htask
  · rw [List.filterMap_append]
    have hone : [task].filterMap runningCaller = (runningCaller task).toList := by
      cases hrunning : runningCaller task with
      | none => rw [List.filterMap_cons_none hrunning, List.filterMap_nil, Option.toList_none]
      | some c => rw [List.filterMap_cons_some hrunning, List.filterMap_nil, Option.toList_some]
    rw [hone]
    exact List.perm_append_comm.trans (h.running.append_right _)

/-- A form that waits for the underlying lock leaves. -/
theorem left_lock (h : FlightWellFormed l running) (htask : l[i]? = some task) {op : LockOp}
    (hop : task.op = .lock op) : FlightWellFormed (l.eraseIdx i) running := by
  constructor
  · exact fun u hu => h.suspended u (List.mem_of_mem_eraseIdx hu)
  · have hnone : runningCaller task = none := by
      unfold runningCaller
      rw [hop]
    rw [filterMap_eraseIdx_of_none htask hnone]
    exact h.running

/-- A form whose callback has settled leaves, and its callback no longer runs. -/
theorem left_callback (h : FlightWellFormed l running) (htask : l[i]? = some task)
    (hop : task.op = .callback) :
    FlightWellFormed (l.eraseIdx i) (running.erase task.tag) := by
  constructor
  · exact fun u hu => h.suspended u (List.mem_of_mem_eraseIdx hu)
  · have hsome : runningCaller task = some task.tag := by
      unfold runningCaller
      rw [hop]
    have hsplit : (l.filterMap runningCaller).Perm
        (task.tag :: (l.eraseIdx i).filterMap runningCaller) := by
      rw [filterMap_split htask, hsome, filterMap_eraseIdx, Option.toList_some, List.append_assoc]
      exact List.perm_middle
    have herase := (h.running.trans hsplit).erase task.tag
    rwa [List.erase_cons_head] at herase

/-- The caller of a running callback is among the running. -/
theorem mem_running (h : FlightWellFormed l running) (htask : l[i]? = some task)
    (hop : task.op = .callback) : task.tag ∈ running := by
  have hsome : runningCaller task = some task.tag := by
    unfold runningCaller
    rw [hop]
  exact h.running.mem_iff.mpr
    (List.mem_filterMap.mpr ⟨task, List.mem_of_getElem? htask, hsome⟩)

end FlightWellFormed

/-- INTERNAL: **one step** keeps the forms well formed. -/
theorem formsWellFormed_step (s : Forms ε) (e : FormEvent ε) (t : Forms ε)
    (h : FormsWellFormed s) (hst : formStep s e = some t) : FormsWellFormed t := by
  cases e with
  | acquire c =>
    rw [formStep_acquire] at hst
    cases hst
    split_ifs
    · exact h.joined ⟨c, .lock .acquire, afterAcquireForm⟩ rfl
    · exact h.joined ⟨c, .callback, afterCallback⟩ rfl
  | tryAcquire c =>
    rw [formStep_tryAcquire] at hst
    cases hst
    split_ifs
    · exact h.joined ⟨c, .lock .tryAcquire, afterTryAcquireForm⟩ rfl
    · exact h.joined ⟨c, .callback, afterCallback⟩ rfl
  | settle i outcome =>
    obtain ⟨task, htask, hsettled⟩ := settlement_of_step h.suspended hst
    cases hsettled with
    | callback hop =>
      have hleft := h.left_callback htask hop
      split_ifs
      · exact hleft
      · exact hleft.joined ⟨task.tag, .lock .release, afterReleaseForm outcome⟩ ⟨outcome, rfl⟩
      · exact hleft
    | acquired op hop hrelease =>
      have hleft := h.left_lock htask hop
      cases succeeded op outcome with
      | false => simpa using hleft
      | true => exact hleft.joined ⟨task.tag, .callback, afterCallback⟩ rfl
    | released hop => exact h.left_lock htask hop

/-- INTERNAL: a callback that settles is a release. SOURCE: shared-lock.ts:17, 34, 46-58 -/
theorem plain_callback {s : Forms ε} (h : FormsWellFormed s) {i : ℕ} {task : FormTask ε}
    (htask : s.pool.inFlight[i]? = some task) (hop : task.op = .callback)
    (outcome : Except ε Bool) :
    callStep s.plain (.release task.tag) =
      (formStep s (.settle i outcome)).map Forms.plain := by
  have hsuspended := h.suspended task (List.mem_of_getElem? htask)
  have hnone : plainTask task = none := by
    unfold plainTask
    rw [hop]
  have hleft := filterMap_eraseIdx_of_none htask hnone
  rw [formStep_callback htask hop hsuspended, callStep_release, Option.map_some]
  by_cases hfree : s.refCount ≤ 0
  · rw [if_pos hfree, if_pos (show s.plain.refCount ≤ 0 from hfree)]
    simp only [Forms.plain, hleft]
  · rw [if_neg hfree, if_neg (show ¬ s.plain.refCount ≤ 0 from hfree)]
    by_cases hlast : s.refCount = 1
    · rw [if_pos hlast, if_pos (show s.plain.refCount = 1 from hlast)]
      simp only [Forms.plain, List.filterMap_append, hleft]
      rfl
    · rw [if_neg hlast, if_neg (show ¬ s.plain.refCount = 1 from hlast)]
      simp only [Forms.plain, hleft]

/-- INTERNAL: an operation of the underlying lock that settles does so for the plain call.
SOURCE: shared-lock.ts:20-25, 37-58 -/
theorem plain_lock {s : Forms ε} (h : FormsWellFormed s) {i : ℕ} {task : FormTask ε}
    (htask : s.pool.inFlight[i]? = some task) {op : LockOp} (hop : task.op = .lock op)
    (outcome : Except ε Bool) :
    callStep s.plain (.settle ((s.pool.inFlight.take i).filterMap plainTask).length outcome) =
      (formStep s (.settle i outcome)).map Forms.plain := by
  have hsuspended := h.suspended task (List.mem_of_getElem? htask)
  obtain ⟨plain, hplain, hplainOp, hplainTag⟩ : ∃ plain, plainTask task = some plain ∧
      plain.op = op ∧ plain.tag.1 = task.tag := by
    unfold plainTask
    rw [hop]
    cases op <;> exact ⟨_, rfl, rfl, rfl⟩
  have hleft := filterMap_eraseIdx_of_some htask hplain
  rw [callStep_settle (wellFormed_plain s) (getElem?_filterMap_of_some htask hplain), hplainOp,
    hplainTag]
  by_cases hrelease : op = .release
  · subst hrelease
    rw [formStep_released htask hop hsuspended, Option.map_some]
    simp only [Forms.plain, hleft, succeeded, Bool.or_false, Bool.false_eq_true, if_false]
  · rw [formStep_acquired htask hop hrelease hsuspended, Option.map_some]
    cases succeeded op outcome with
    | false => simp [Forms.plain, hleft]
    | true =>
      simp only [Forms.plain, if_true, List.filterMap_append, hleft]
      simp [plainTask]

/-- INTERNAL: **a step of the forms is a step of the plain calls.**
SOURCE: shared-lock.ts:11-58 -/
theorem plain_step (s : Forms ε) (e : FormEvent ε) (t : Forms ε) (h : FormsWellFormed s)
    (hst : formStep s e = some t) : callStep s.plain (plainEvent s e) = some t.plain := by
  cases e with
  | acquire c =>
    rw [formStep_acquire] at hst
    cases hst
    refine (callStep_acquire s.plain c).trans ?_
    by_cases hfree : s.refCount ≤ 0
    · rw [if_pos hfree, if_pos (show s.plain.refCount ≤ 0 from hfree)]
      simp [Forms.plain, plainTask]
    · rw [if_neg hfree, if_neg (show ¬ s.plain.refCount ≤ 0 from hfree)]
      simp [Forms.plain, plainTask]
  | tryAcquire c =>
    rw [formStep_tryAcquire] at hst
    cases hst
    refine (callStep_tryAcquire s.plain c).trans ?_
    by_cases hfree : s.refCount ≤ 0
    · rw [if_pos hfree, if_pos (show s.plain.refCount ≤ 0 from hfree)]
      simp [Forms.plain, plainTask]
    · rw [if_neg hfree, if_neg (show ¬ s.plain.refCount ≤ 0 from hfree)]
      simp [Forms.plain, plainTask]
  | settle i outcome =>
    cases htask : s.pool.inFlight[i]? with
    | none => simp [formStep_settle_none htask] at hst
    | some task =>
      cases hop : task.op with
      | callback =>
        have hevent : plainEvent s (.settle i outcome) = .release task.tag := by
          simp only [plainEvent, htask, hop]
        rw [hevent, plain_callback h htask hop outcome, hst, Option.map_some]
      | lock op =>
        have hevent : plainEvent s (.settle i outcome) =
            .settle ((s.pool.inFlight.take i).filterMap plainTask).length outcome := by
          simp only [plainEvent, htask, hop]
        rw [hevent, plain_lock h htask hop outcome, hst, Option.map_some]

end Xnestjs.Program.SharedLock
