import Xnestjs.Analysis.SharedLockRefinement
import Xnestjs.Interface.Brackets

/-!
# Nested callback programs keep the bracket discipline

The induction is on the program. What it carries is more than the promise of each call:
a program started with `n` holds ends with `n`, and on its way never falls below them
(`Above`), so that a callback started with the hold of its own bracket keeps that hold
whatever it does inside. The plain calls enter through one lemma each.
-/

set_option autoImplicit false

namespace Xnestjs.Analysis

open Xnestjs.Model Xnestjs.Program.SharedLock Xnestjs.Interface

variable {ε α β γ : Type}

/-- At least `n` holds, and the underlying lock is held when there are any. -/
structure Above (n : ℕ) (v : LockWorld ε) : Prop where
  count : (n : ℤ) ≤ max v.state 0
  held : 0 < n → LockHeld v

/-- INTERNAL: no state is below zero. -/
theorem Above.zero (v : LockWorld ε) : Above 0 v :=
  ⟨by omega, fun h => absurd h (Nat.lt_irrefl 0)⟩

/-- INTERNAL: what is above more holds is above fewer. -/
theorem Above.mono {n m : ℕ} {v : LockWorld ε} (h : Above m v) (hnm : n ≤ m) : Above n v := by
  have hcount := h.count
  exact ⟨by omega, fun hn => h.held (Nat.lt_of_lt_of_le hn hnm)⟩

/-- INTERNAL: with holds outstanding the count is positive and the lock is held. -/
theorem Above.backed {n : ℕ} {v : LockWorld ε} (h : Above (n + 1) v) :
    1 ≤ v.state ∧ LockHeld v := by
  have hcount := h.count
  exact ⟨by omega, h.held (Nat.succ_pos n)⟩

/-- A state with `n` holds is above `n`. -/
theorem above_of_holding {n : ℕ} {w : LockWorld ε} (h : Holding w n) : Above n w := by
  have hcount := h.count
  exact ⟨by omega, h.log.ends.mpr⟩

section

variable (answer : ℕ → LockOp → Except ε Bool)

/-! ## The plain calls -/

/-- INTERNAL: a granted `acquire()` adds a hold. SOURCE: shared-lock.ts:20-25 -/
theorem acquire_holding (hacquire : ∀ i e, answer i .acquire ≠ .error e) {w : LockWorld ε}
    {n : ℕ} (h : Holding w n) :
    (acquire.exec answer w).2 = .ok () ∧ Holding (acquire.exec answer w).1 (n + 1) := by
  have hcount := h.count
  rw [exec_plain_acquire]
  obtain ⟨b, hb⟩ : ∃ b, answer w.asked.length .acquire = .ok b := by
    cases hanswer : answer w.asked.length .acquire with
    | ok b => exact ⟨b, rfl⟩
    | error e => exact absurd hanswer (hacquire _ e)
  split_ifs with hfree
  · have hn : n = 0 := by omega
    subst hn
    simp only [hb]
    refine ⟨rfl, rfl, ?_⟩
    rw [List.filterMap_append]
    exact h.log.acquire (Nat.succ_pos 0)
  · refine ⟨rfl, ?_, ?_⟩
    · show max (w.state + 1) 0 = ((n + 1 : ℕ) : ℤ)
      omega
    · apply h.log.between
      omega

/-- INTERNAL: a `tryAcquire()` adds a hold when it is granted; it is refused only when there
are none. SOURCE: shared-lock.ts:37-44 -/
theorem tryAcquire_holding (htry : ∀ i e, answer i .tryAcquire ≠ .error e) {w : LockWorld ε}
    {n : ℕ} (h : Holding w n) :
    (tryAcquire.exec answer w).2 = .ok true ∧ Holding (tryAcquire.exec answer w).1 (n + 1) ∨
      (tryAcquire.exec answer w).2 = .ok false ∧ Holding (tryAcquire.exec answer w).1 n := by
  have hcount := h.count
  rw [exec_plain_tryAcquire]
  obtain ⟨b, hb⟩ : ∃ b, answer w.asked.length .tryAcquire = .ok b := by
    cases hanswer : answer w.asked.length .tryAcquire with
    | ok b => exact ⟨b, rfl⟩
    | error e => exact absurd hanswer (htry _ e)
  split_ifs with hfree
  · have hn : n = 0 := by omega
    subst hn
    simp only [hb]
    cases b with
    | true =>
      left
      refine ⟨rfl, rfl, ?_⟩
      rw [List.filterMap_append]
      exact h.log.acquire (Nat.succ_pos 0)
    | false =>
      right
      refine ⟨rfl, rfl, ?_⟩
      rw [List.filterMap_append]
      exact (List.append_nil _).symm ▸ h.log
  · left
    refine ⟨rfl, ?_, ?_⟩
    · show max (w.state + 1) 0 = ((n + 1 : ℕ) : ℤ)
      omega
    · apply h.log.between
      omega

/-- INTERNAL: a `release()` gives back one hold, however the underlying release settles.
SOURCE: shared-lock.ts:46-58 -/
theorem release_holding {w : LockWorld ε} {n : ℕ} (h : Holding w (n + 1)) :
    Holding ((release false).exec answer w).1 n := by
  have hcount := h.count
  have hfree : ¬ w.state ≤ 0 := by omega
  rw [exec_plain_release, if_neg hfree]
  by_cases hlast : w.state = 1
  · have hn : n = 0 := by omega
    subst hn
    rw [if_pos (Or.inr hlast)]
    refine ⟨?_, ?_⟩
    · cases answer w.asked.length .release <;> rfl
    · rw [List.filterMap_append]
      exact h.log.release (Nat.succ_pos 0)
  · rw [if_neg (by simp [hlast])]
    refine ⟨?_, ?_⟩
    · show max (w.state - 1) 0 = (n : ℤ)
      omega
    · apply h.log.between
      omega

/-- INTERNAL: with holds outstanding the plain calls pass through their starting point only,
and with none there is nothing to stay above. -/
theorem passed_plain_above {w : LockWorld ε} {n : ℕ} (h : Holding w n) :
    (∀ v ∈ (acquire : Body ε Unit).passed answer w, Above n v) ∧
      ∀ v ∈ (tryAcquire : Body ε Bool).passed answer w, Above n v := by
  cases n with
  | zero => exact ⟨fun v _ => Above.zero v, fun v _ => Above.zero v⟩
  | succ n =>
    have hcount := h.count
    have hfree : ¬ w.state ≤ 0 := by omega
    have hacquire : (acquire : Body ε Unit).passed answer w = [w] := by
      simp [acquire, Async.passed, Async.set, hfree]
    have htry : (tryAcquire : Body ε Bool).passed answer w = [w] := by
      simp [tryAcquire, Async.passed, hfree]
    rw [hacquire, htry]
    refine ⟨?_, ?_⟩ <;>
    · intro v hv
      rw [List.mem_singleton.mp hv]
      exact above_of_holding h

/-- INTERNAL: a release that leaves holds passes through its starting point only. -/
theorem passed_release_above {w : LockWorld ε} {n : ℕ} (h : Holding w (n + 1)) :
    ∀ v ∈ (release false : Body ε Unit).passed answer w, Above n v := by
  intro v hv
  cases n with
  | zero => exact Above.zero v
  | succ n =>
    have hcount := h.count
    have hfree : ¬ w.state ≤ 0 := by omega
    have hlast : ¬ w.state = 1 := by omega
    have hpassed : (release false : Body ε Unit).passed answer w = [w] := by
      simp [release, Async.passed, Async.set, hfree, hlast]
    rw [hpassed, List.mem_singleton] at hv
    rw [hv]
    exact (above_of_holding h).mono (Nat.le_succ _)

/-! ## The callback forms -/

/-- The callback ends with the `n` holds it started with and has not gone below them. -/
structure KeepsHolds (callback : Body ε α) (w : LockWorld ε) (n : ℕ) : Prop where
  ends : Holding (callback.exec answer w).1 n
  above : ∀ v ∈ callback.during answer w, Above n v

/-- INTERNAL: what a bracket passes through, given its three parts. -/
theorem bracket_above {grant : Body ε γ} {callback : Body ε α} {w : LockWorld ε} {n : ℕ}
    (hgrant : ∀ v ∈ grant.passed answer w, Above n v)
    (hcallback : KeepsHolds answer callback (grant.exec answer w).1 (n + 1)) :
    ∀ v ∈ grant.passed answer w ++ callback.passed answer (grant.exec answer w).1 ++
      (release false : Body ε Unit).passed answer
        (callback.exec answer (grant.exec answer w).1).1, Above n v := by
  intro v hv
  rcases List.mem_append.mp hv with hv | hv
  · rcases List.mem_append.mp hv with hv | hv
    · exact hgrant v hv
    · exact (hcallback.above v (List.mem_append_left _ hv)).mono (Nat.le_succ n)
  · exact passed_release_above answer hcallback.ends v hv

/-- INTERNAL: **`acquire(callback)`** is a bracket around every callback that keeps its
holds. SOURCE: shared-lock.ts:11-19 -/
theorem acquireWith_bracketed (hacquire : ∀ i e, answer i .acquire ≠ .error e)
    {callback : Body ε α} {w : LockWorld ε} {n : ℕ} (h : Holding w n)
    (hcallback : KeepsHolds answer callback (acquire.exec answer w).1 (n + 1)) :
    Bracketed answer acquire callback id (acquireWith callback) w ∧
      Holding ((acquireWith callback).exec answer w).1 n ∧
      ∀ v ∈ (acquireWith callback).passed answer w, Above n v := by
  obtain ⟨hok, -⟩ := acquire_holding answer hacquire h
  have hgrant : acquire.exec answer w = ((acquire.exec answer w).1, .ok ()) := Prod.ext rfl hok
  have hcall : (acquireWith callback).exec answer w =
      (callback.tryFinally (release false)).exec answer (acquire.exec answer w).1 := by
    rw [exec_acquireWith, hgrant]
  have hpassed : (acquireWith callback).passed answer w =
      acquire.passed answer w ++ callback.passed answer (acquire.exec answer w).1 ++
        (release false).passed answer
          (callback.exec answer (acquire.exec answer w).1).1 := by
    refine (Async.passed_bind_ok answer hgrant
      fun _ => callback.tryFinally (release false)).trans ?_
    rw [Async.passed_tryFinally, List.append_assoc]
  have hends : Holding ((acquireWith callback).exec answer w).1 n := by
    rw [hcall, exec_bracket]
    exact release_holding answer hcallback.ends
  refine ⟨⟨hpassed, ?_, ?_, ?_⟩, hends, ?_⟩
  · intro v hv
    exact (hcallback.above v hv).backed
  · rw [hcall, exec_bracket]
    rfl
  · rw [hends.count, h.count]
  · rw [hpassed]
    exact bracket_above answer (passed_plain_above answer h).1 hcallback

/-- INTERNAL: a granted `tryAcquire(callback)` is a bracket around every callback that keeps its
holds. SOURCE: shared-lock.ts:28-36 -/
theorem tryAcquireWith_granted {callback : Body ε α} {w : LockWorld ε} {n : ℕ}
    (h : Holding w n) (hok : (tryAcquire.exec answer w).2 = .ok true)
    (hcallback : KeepsHolds answer callback (tryAcquire.exec answer w).1 (n + 1)) :
    Bracketed answer tryAcquire callback (Except.map some) (tryAcquireWith callback) w ∧
      Holding ((tryAcquireWith callback).exec answer w).1 n ∧
      ∀ v ∈ (tryAcquireWith callback).passed answer w, Above n v := by
  have hgrant : tryAcquire.exec answer w = ((tryAcquire.exec answer w).1, .ok true) :=
    Prod.ext rfl hok
  have hcall : (tryAcquireWith callback).exec answer w =
      ((some <$> callback).tryFinally (release false)).exec answer
        (tryAcquire.exec answer w).1 := by
    rw [exec_tryAcquireWith, hgrant]
  have hpassed : (tryAcquireWith callback).passed answer w =
      tryAcquire.passed answer w ++ callback.passed answer (tryAcquire.exec answer w).1 ++
        (release false).passed answer
          (callback.exec answer (tryAcquire.exec answer w).1).1 := by
    refine (Async.passed_bind_ok answer hgrant _).trans ?_
    rw [List.append_assoc]
    refine congrArg _ ((Async.passed_tryFinally answer _ _ _).trans ?_)
    rw [passed_some_map, exec_some_map]
  have hends : Holding ((tryAcquireWith callback).exec answer w).1 n := by
    rw [hcall, exec_bracket, exec_some_map]
    exact release_holding answer hcallback.ends
  refine ⟨⟨hpassed, ?_, ?_, ?_⟩, hends, ?_⟩
  · intro v hv
    exact (hcallback.above v hv).backed
  · rw [hcall, exec_bracket, exec_some_map]
  · rw [hends.count, h.count]
  · rw [hpassed]
    exact bracket_above answer (passed_plain_above answer h).2 hcallback

/-- INTERNAL: a refused `tryAcquire(callback)` does nothing but the attempt.
SOURCE: shared-lock.ts:30 -/
theorem tryAcquireWith_refused (callback : Body ε α) {w : LockWorld ε} {n : ℕ}
    (h : Holding w n) (hok : (tryAcquire.exec answer w).2 = .ok false)
    (hrefused : Holding (tryAcquire.exec answer w).1 n) :
    Refused answer (tryAcquireWith callback) w ∧
      Holding ((tryAcquireWith callback).exec answer w).1 n ∧
      ∀ v ∈ (tryAcquireWith callback).passed answer w, Above n v := by
  have hgrant : tryAcquire.exec answer w = ((tryAcquire.exec answer w).1, .ok false) :=
    Prod.ext rfl hok
  have hcall : (tryAcquireWith callback).exec answer w =
      ((tryAcquire.exec answer w).1, .ok none) := by
    rw [exec_tryAcquireWith, hgrant]
  have hpassed : (tryAcquireWith callback).passed answer w = tryAcquire.passed answer w := by
    refine (Async.passed_bind_ok answer hgrant _).trans ?_
    exact List.append_nil _
  have hends : Holding ((tryAcquireWith callback).exec answer w).1 n := by
    rw [hcall]
    exact hrefused
  refine ⟨⟨hpassed, hcall, ?_⟩, hends, ?_⟩
  · rw [hends.count, h.count]
  · rw [hpassed]
    exact (passed_plain_above answer h).2

/-- INTERNAL: **`tryAcquire(callback)`** is a bracket when it is granted, and does nothing
but the attempt when it is refused. SOURCE: shared-lock.ts:28-36 -/
theorem tryAcquireWith_bracketed (htry : ∀ i e, answer i .tryAcquire ≠ .error e)
    {callback : Body ε α} {w : LockWorld ε} {n : ℕ} (h : Holding w n)
    (hcallback : (tryAcquire.exec answer w).2 = .ok true →
      KeepsHolds answer callback (tryAcquire.exec answer w).1 (n + 1)) :
    ((tryAcquire.exec answer w).2 = .ok true ∧
        Bracketed answer tryAcquire callback (Except.map some) (tryAcquireWith callback) w ∨
      (tryAcquire.exec answer w).2 = .ok false ∧
        Refused answer (tryAcquireWith callback) w) ∧
      Holding ((tryAcquireWith callback).exec answer w).1 n ∧
      ∀ v ∈ (tryAcquireWith callback).passed answer w, Above n v := by
  rcases tryAcquire_holding answer htry h with ⟨hok, -⟩ | ⟨hok, hrefused⟩
  · obtain ⟨hbracket, hends⟩ := tryAcquireWith_granted answer h hok (hcallback hok)
    exact ⟨.inl ⟨hok, hbracket⟩, hends⟩
  · obtain ⟨hrefusal, hends⟩ := tryAcquireWith_refused answer callback h hok hrefused
    exact ⟨.inr ⟨hok, hrefusal⟩, hends⟩

/-! ## Programs -/

/-- INTERNAL: a program that goes on after a callback call, once the call and what follows
keep their holds. -/
theorem keepsHolds_settled {call : Body ε β} {next : Except ε β → Body ε α} {w : LockWorld ε}
    {n : ℕ} (hcall : ∀ v ∈ call.passed answer w, Above n v)
    (hnext : KeepsHolds answer (next (call.exec answer w).2) (call.exec answer w).1 n) :
    KeepsHolds answer (call.settled next) w n := by
  refine ⟨?_, ?_⟩
  · rw [Async.exec_settled]
    exact hnext.ends
  · intro v hv
    unfold Async.during at hv
    rw [Async.passed_settled, Async.exec_settled, List.append_assoc] at hv
    rcases List.mem_append.mp hv with hv | hv
    · exact hcall v hv
    · exact hnext.above v hv

/-- INTERNAL: **a nested program** is disciplined and keeps the holds it starts with. The
induction is on the program: callbacks are started with one hold more, what follows a call
with the same number. -/
theorem nested_keeps (hacquire : ∀ i e, answer i .acquire ≠ .error e)
    (htry : ∀ i e, answer i .tryAcquire ≠ .error e) (p : Nested ε α) {w : LockWorld ε} {n : ℕ}
    (h : Holding w n) : Disciplined answer p w ∧ KeepsHolds answer p.body w n := by
  induction p generalizing w n with
  | finish outcome =>
    refine ⟨trivial, h, ?_⟩
    intro v hv
    rw [List.mem_singleton.mp hv]
    exact above_of_holding h
  | acquire callback next ihcallback ihnext =>
    obtain ⟨hok, hgranted⟩ := acquire_holding answer hacquire h
    obtain ⟨hdisciplined, hkeeps⟩ := ihcallback hgranted
    obtain ⟨hbracket, hends, habove⟩ := acquireWith_bracketed answer hacquire h hkeeps
    obtain ⟨hrest, hkeepsRest⟩ := ihnext _ hends
    refine ⟨⟨⟨hok, hbracket, hdisciplined⟩, hrest⟩, ?_⟩
    exact keepsHolds_settled answer habove hkeepsRest
  | tryAcquire callback next ihcallback ihnext =>
    have hcallback : (tryAcquire.exec answer w).2 = .ok true →
        Disciplined answer callback (tryAcquire.exec answer w).1 ∧
          KeepsHolds answer callback.body (tryAcquire.exec answer w).1 (n + 1) := by
      intro htrue
      rcases tryAcquire_holding answer htry h with ⟨-, hgranted⟩ | ⟨hfalse, -⟩
      · exact ihcallback hgranted
      · rw [htrue] at hfalse
        cases hfalse
    obtain ⟨hcall, hends, habove⟩ :=
      tryAcquireWith_bracketed answer htry h fun htrue => (hcallback htrue).2
    obtain ⟨hrest, hkeepsRest⟩ := ihnext _ hends
    refine ⟨⟨?_, hrest⟩, keepsHolds_settled answer habove hkeepsRest⟩
    rcases hcall with ⟨htrue, hbracket⟩ | hrefused
    · exact .inl ⟨htrue, hbracket, (hcallback htrue).1⟩
    · exact .inr hrefused

/-- INTERNAL: a program does nothing beside its calls. The induction is on what follows each
call. -/
theorem nested_runs_its_calls (p : Nested ε α) (w : LockWorld ε) : RunsItsCalls answer p w := by
  induction p generalizing w with
  | finish outcome => exact ⟨rfl, rfl⟩
  | acquire callback next _ ihnext =>
    obtain ⟨hpasses, hends⟩ := ihnext ((acquireWith callback.body).exec answer w).2
      ((acquireWith callback.body).exec answer w).1
    refine ⟨(Async.passed_settled answer _ _ w).trans ?_,
      (Async.exec_settled answer _ _ w).trans hends⟩
    exact congrArg _ hpasses
  | tryAcquire callback next _ ihnext =>
    obtain ⟨hpasses, hends⟩ := ihnext ((tryAcquireWith callback.body).exec answer w).2
      ((tryAcquireWith callback.body).exec answer w).1
    refine ⟨(Async.passed_settled answer _ _ w).trans ?_,
      (Async.exec_settled answer _ _ w).trans hends⟩
    exact congrArg _ hpasses

end

/-- **Callback programs are bracketed.** Every finite program of nested `acquire(callback)`
and `tryAcquire(callback)` calls, started with any number of holds, whose underlying
acquisitions do not reject: it makes its calls, does nothing beside them and ends as it says;
each callback runs exactly once if its lock is granted and not at all if it is refused, with
the count at least 1 and the underlying lock held throughout; each call ends as its callback
ends; and the number of holds is back at its start after each call and at the end.
SOURCE: shared-lock.ts:11-58 -/
theorem nested_callbacks_bracketed (answer : ℕ → LockOp → Except ε Bool)
    (hacquire : ∀ i e, answer i .acquire ≠ .error e)
    (htry : ∀ i e, answer i .tryAcquire ≠ .error e) (p : Nested ε α) (w : LockWorld ε) (n : ℕ)
    (h : Holding w n) :
    RunsItsCalls answer p w ∧ Disciplined answer p w ∧
      max (p.body.exec answer w).1.state 0 = max w.state 0 := by
  obtain ⟨hdisciplined, hkeeps⟩ := nested_keeps answer hacquire htry p h
  refine ⟨nested_runs_its_calls answer p w, hdisciplined, ?_⟩
  rw [hkeeps.ends.count, h.count]

/-- A lock whose release rejects, already taken twice; the inner callback throws inside the outer
one, which returns a value all the same, and two holds are left. -/
theorem nested_callbacks_bracketed_throwing :
    let answer : ℕ → LockOp → Except String Bool := fun _ op =>
      if op = .release then .error "timeout" else .ok true
    let p : Nested String ℕ :=
      .acquire (.tryAcquire (.finish (.error "inner")) fun _ => .finish (.ok 5)) .finish
    let w : LockWorld String := (awaitCalls answer freshLock [.acquire, .tryAcquire]).1
    Disciplined answer p w ∧ (p.body.exec answer w).2 = .ok 5 ∧
      max (p.body.exec answer w).1.state 0 = 2 := by
  intro answer p w
  have hacquire : ∀ i e, answer i .acquire ≠ .error e := fun _ _ => by simp [answer]
  have htry : ∀ i e, answer i .tryAcquire ≠ .error e := fun _ _ => by simp [answer]
  have hholding : Holding w 2 :=
    (awaitCalls_refine answer hacquire htry [.acquire, .tryAcquire]
      (show Holding freshLock 0 from ⟨rfl, alternates_nil⟩)).2
  obtain ⟨hruns, hdisciplined, hcount⟩ :=
    nested_callbacks_bracketed answer hacquire htry p w 2 hholding
  exact ⟨hdisciplined, by rw [hruns.ends]; rfl, hcount.trans hholding.count⟩

end Xnestjs.Analysis
