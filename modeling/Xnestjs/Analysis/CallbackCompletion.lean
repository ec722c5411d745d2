import Xnestjs.Program.CallbackCalls
import Xnestjs.Model.Run
import Mathlib.Algebra.BigOperators.Group.List.Basic
import Mathlib.Algebra.GroupWithZero.Nat
import Mathlib.Data.List.Chain

/-!
# Callback forms come to an end

A form awaits an acquisition of the underlying lock, then its callback, then a release, each at
most once. This is said of each call by itself: what settles for a caller, and what it waits for
then, follow each other in this order. So however the interleaving goes and whatever these settle
with, all forms have ended after at most three settlements for each call.
-/

set_option autoImplicit false

namespace Xnestjs.Program.SharedLock

open Xnestjs.Model

/-- What a form awaits after an operation, if it awaits anything more. -/
def FormOp.next : FormOp → Option FormOp
  | .lock .release => none
  | .callback => some (.lock .release)
  | .lock _ => some .callback

/-- The operation with all that may come after it. -/
def FormOp.onwards : FormOp → List FormOp
  | .lock .release => [.lock .release]
  | .callback => [.callback, .lock .release]
  | .lock op => [.lock op, .callback, .lock .release]

/-- How many operations a form may still await, the one it waits for included. -/
def FormOp.work (op : FormOp) : ℕ := op.onwards.length

/-- What comes next goes on with all that comes after it. -/
theorem FormOp.onwards_of_next {op op' : FormOp} (h : op.next = some op') :
    op.onwards = op :: op'.onwards := by
  cases op with
  | callback =>
    cases h
    rfl
  | lock op => cases op <;> cases h <;> rfl

/-- An operation is the first of what is to come. -/
theorem FormOp.onwards_ne_nil (op : FormOp) : [op] <+: op.onwards := by
  cases op with
  | callback => exact ⟨_, rfl⟩
  | lock op => cases op <;> exact ⟨_, rfl⟩

/-- All that may come is the end of one way from an acquisition to a release. -/
theorem FormOp.onwards_suffix (op : FormOp) : ∃ first, first ≠ LockOp.release ∧
    op.onwards <:+ [.lock first, .callback, .lock .release] := by
  cases op with
  | callback => exact ⟨.acquire, by decide, by decide⟩
  | lock op =>
    cases op with
    | acquire => exact ⟨.acquire, by decide, List.suffix_refl _⟩
    | tryAcquire => exact ⟨.tryAcquire, by decide, List.suffix_refl _⟩
    | release => exact ⟨.acquire, by decide, by decide⟩

/-- Operations that come one after the other are the beginning of what may come. -/
theorem FormOp.prefix_of_chain {op : FormOp} {l : List FormOp}
    (h : (op :: l).IsChain fun op op' => op.next = some op') : op :: l <+: op.onwards := by
  induction l generalizing op with
  | nil => exact op.onwards_ne_nil
  | cons op' l ih =>
    obtain ⟨hnext, hrest⟩ := List.isChain_cons_cons.mp h
    rw [FormOp.onwards_of_next hnext]
    exact (List.prefix_cons_inj op).mpr (ih hrest)

/-- **One way of a form.** Operations that come one after the other are an acquisition, a callback
and a release, or some of these without a gap. -/
theorem FormOp.infix_of_chain {l : List FormOp}
    (h : l.IsChain fun op op' => op.next = some op') :
    ∃ first, first ≠ LockOp.release ∧ l <:+: [.lock first, .callback, .lock .release] := by
  cases l with
  | nil => exact ⟨.acquire, by decide, List.nil_infix⟩
  | cons op l =>
    obtain ⟨first, hfirst, hsuffix⟩ := op.onwards_suffix
    exact ⟨first, hfirst, (FormOp.prefix_of_chain h).isInfix.trans hsuffix.isInfix⟩

end Xnestjs.Program.SharedLock

namespace Xnestjs.Analysis

open Xnestjs.Model Xnestjs.Program.SharedLock

variable {ε : Type}

/-- How many operations the forms in flight may still await. -/
def workLeft (s : Forms ε) : ℕ := (s.pool.inFlight.map fun task => task.op.work).sum

/-- The caller of a call. -/
def callerOf : FormEvent ε → Option ℕ
  | .acquire c => some c
  | .tryAcquire c => some c
  | .settle _ _ => none

def isCall (_ : Forms ε) (e : FormEvent ε) : Bool := (callerOf e).isSome

def isSettlement (_ : Forms ε) (e : FormEvent ε) : Bool := (callerOf e).isNone

/-- What a form waits for, when it is one of the caller. -/
def opOf (c : ℕ) (task : FormTask ε) : Option FormOp :=
  if task.tag = c then some task.op else none

/-- What the forms of the caller wait for. -/
def awaitedBy (c : ℕ) (s : Forms ε) : List FormOp := s.pool.inFlight.filterMap (opOf c)

/-- What settles for the caller in a step. -/
def settledFor (c : ℕ) (s : Forms ε) : FormEvent ε → Option FormOp
  | .settle i _ => s.pool.inFlight[i]?.bind (opOf c)
  | _ => none

/-- What settles for the caller in a run, in its order. -/
def settlements (c : ℕ) : Forms ε → List (FormEvent ε) → List FormOp
  | _, [] => []
  | s, e :: es =>
    (settledFor c s e).toList ++ match formStep s e with
      | none => []
      | some t => settlements c t es

/-- What is awaited first settles, time and again, with the given outcomes. -/
def settleFirst (outcomes : ℕ → Except ε Bool) (n : ℕ) : List (FormEvent ε) :=
  (List.range n).map fun k => .settle 0 (outcomes k)

/-! ## One step -/

/-- INTERNAL: a call leaves one more form in flight. SOURCE: shared-lock.ts:11-19, 28-36 -/
theorem called_flight {s t : Forms ε} {e : FormEvent ε} {c : ℕ} (hcall : callerOf e = some c)
    (hst : formStep s e = some t) :
    ∃ task, task.tag = c ∧ t.pool.inFlight = s.pool.inFlight ++ [task] := by
  cases e with
  | settle i outcome => cases hcall
  | acquire c =>
    cases hcall
    rw [formStep_acquire] at hst
    cases hst
    split_ifs
    · exact ⟨_, rfl, rfl⟩
    · exact ⟨_, rfl, rfl⟩
  | tryAcquire c =>
    cases hcall
    rw [formStep_tryAcquire] at hst
    cases hst
    split_ifs
    · exact ⟨_, rfl, rfl⟩
    · exact ⟨_, rfl, rfl⟩

/-- INTERNAL: **a settlement** takes the form out, or lets it wait for what comes next.
SOURCE: shared-lock.ts:11-58 -/
theorem settled_flight {s : Forms ε} (h : FormsWellFormed s) {i : ℕ} {task : FormTask ε}
    (htask : s.pool.inFlight[i]? = some task) (outcome : Except ε Bool) :
    ∃ t, formStep s (.settle i outcome) = some t ∧
      (t.pool.inFlight = s.pool.inFlight.eraseIdx i ∨
        ∃ task', t.pool.inFlight = s.pool.inFlight.eraseIdx i ++ [task'] ∧
          task'.tag = task.tag ∧ task.op.next = some task'.op) := by
  have hsuspended := h.suspended task (List.mem_of_getElem? htask)
  cases hop : task.op with
  | callback =>
    refine ⟨_, formStep_callback htask hop hsuspended outcome, ?_⟩
    split_ifs
    · exact Or.inl rfl
    · exact Or.inr ⟨_, rfl, rfl, rfl⟩
    · exact Or.inl rfl
  | lock op =>
    by_cases hrelease : op = .release
    · subst hrelease
      exact ⟨_, formStep_released htask hop hsuspended outcome, Or.inl rfl⟩
    · refine ⟨_, formStep_acquired htask hop hrelease hsuspended outcome, ?_⟩
      cases succeeded op outcome with
      | false => exact Or.inl (by simp)
      | true =>
        refine Or.inr ⟨_, rfl, rfl, ?_⟩
        cases op with
        | release => exact absurd rfl hrelease
        | acquire => rfl
        | tryAcquire => rfl

/-! ## One caller -/

/-- What settled for the caller so far, and what it waits for, come one after the other. -/
structure InOrder (c : ℕ) (history : List FormOp) (s : Forms ε) : Prop where
  awaited : (awaitedBy c s).length ≤ 1
  chain : (history ++ awaitedBy c s).IsChain fun op op' => op.next = some op'

/-- INTERNAL: a call of somebody else changes nothing for the caller. -/
theorem awaitedBy_called {s t : Forms ε} {e : FormEvent ε} {c c' : ℕ}
    (hcall : callerOf e = some c') (hst : formStep s e = some t) :
    ∃ op, awaitedBy c t = awaitedBy c s ++ if c' = c then [op] else [] := by
  obtain ⟨task, rfl, hflight⟩ := called_flight hcall hst
  refine ⟨task.op, ?_⟩
  unfold awaitedBy
  rw [hflight, List.filterMap_append]
  congr 1
  split_ifs with htag
  · simp [opOf, htag]
  · simp [opOf, htag]

/-- INTERNAL: **a settlement, for one caller** that waits for one operation at most: it is that of
somebody else, or what the caller waits for, and then the caller waits for what comes next.
SOURCE: shared-lock.ts:11-58 -/
theorem awaitedBy_settled {s t : Forms ε} (h : FormsWellFormed s) (c : ℕ) {i : ℕ}
    {outcome : Except ε Bool} (hst : formStep s (.settle i outcome) = some t)
    (hone : (awaitedBy c s).length ≤ 1) :
    (settledFor c s (.settle i outcome) = none ∧ awaitedBy c t = awaitedBy c s) ∨
      ∃ op, settledFor c s (.settle i outcome) = some op ∧ awaitedBy c s = [op] ∧
        (awaitedBy c t = [] ∨ ∃ op', awaitedBy c t = [op'] ∧ op.next = some op') := by
  cases htask : s.pool.inFlight[i]? with
  | none => simp [formStep_settle_none htask] at hst
  | some task =>
    obtain ⟨t', hst', hflight⟩ := settled_flight h htask outcome
    cases hst.symm.trans hst'
    have hsettled : settledFor c s (.settle i outcome) = opOf c task := by
      simp [settledFor, htask]
    rw [hsettled]
    unfold awaitedBy at hone ⊢
    by_cases htag : task.tag = c
    · have hop : opOf c task = some task.op := if_pos htag
      rw [filterMap_split htask, hop] at hone ⊢
      have hbefore : (s.pool.inFlight.take i).filterMap (opOf c) = [] := by
        rw [← List.length_eq_zero_iff]
        simp at hone
        omega
      have hafter : (s.pool.inFlight.drop (i + 1)).filterMap (opOf c) = [] := by
        rw [← List.length_eq_zero_iff]
        simp at hone
        omega
      have herased : (s.pool.inFlight.eraseIdx i).filterMap (opOf c) = [] := by
        rw [filterMap_eraseIdx, hbefore, hafter, List.append_nil]
      refine Or.inr ⟨task.op, rfl, by simp [hbefore, hafter], ?_⟩
      rcases hflight with hflight | ⟨task', hflight, htag', hnext⟩
      · exact Or.inl (by rw [hflight, herased])
      · refine Or.inr ⟨task'.op, ?_, hnext⟩
        rw [hflight, List.filterMap_append, herased]
        simp [opOf, htag', htag]
    · have hop : opOf c task = none := if_neg htag
      refine Or.inl ⟨hop, ?_⟩
      rcases hflight with hflight | ⟨task', hflight, htag', -⟩
      · rw [hflight, filterMap_eraseIdx_of_none htask hop]
      · rw [hflight, List.filterMap_append, filterMap_eraseIdx_of_none htask hop]
        simp [opOf, htag', htag]

/-- INTERNAL: a caller that waits for nothing is left alone until it calls. -/
theorem idle_step {s t : Forms ε} (h : FormsWellFormed s) {e : FormEvent ε} {c : ℕ}
    (hst : formStep s e = some t) (hcall : callerOf e ≠ some c) (hidle : awaitedBy c s = []) :
    settledFor c s e = none ∧ awaitedBy c t = [] := by
  cases he : callerOf e with
  | some c' =>
    have hne : c' ≠ c := fun hc => hcall (hc ▸ he)
    obtain ⟨op, hawaited⟩ := awaitedBy_called (c := c) he hst
    refine ⟨?_, by rw [hawaited, if_neg hne, hidle]; rfl⟩
    cases e with
    | settle i outcome => cases he
    | acquire c => rfl
    | tryAcquire c => rfl
  | none =>
    cases e with
    | acquire c => cases he
    | tryAcquire c => cases he
    | settle i outcome =>
      rcases awaitedBy_settled h c hst (by simp [hidle]) with ⟨hsettled, hsame⟩ | ⟨op, -, hop, -⟩
      · exact ⟨hsettled, hsame.trans hidle⟩
      · rw [hidle] at hop
        cases hop

/-- INTERNAL: **one step** keeps the order, when the caller calls only once. -/
theorem inOrder_step {s t : Forms ε} (h : FormsWellFormed s) {e : FormEvent ε} {c : ℕ}
    (hst : formStep s e = some t) {history : List FormOp} (horder : InOrder c history s)
    (hcall : callerOf e = some c → history = [] ∧ awaitedBy c s = []) :
    InOrder c (history ++ (settledFor c s e).toList) t := by
  obtain ⟨hone, hchain⟩ := horder
  cases he : callerOf e with
  | some c' =>
    have hsettled : settledFor c s e = none := by
      cases e with
      | settle i outcome => cases he
      | acquire c => rfl
      | tryAcquire c => rfl
    obtain ⟨op, hawaited⟩ := awaitedBy_called (c := c) he hst
    rw [hsettled, Option.toList_none, List.append_nil]
    by_cases hc : c' = c
    · obtain ⟨rfl, hnone⟩ := hcall (hc ▸ he)
      rw [if_pos hc, hnone] at hawaited
      exact ⟨by rw [hawaited]; rfl, by rw [hawaited]; exact List.isChain_singleton op⟩
    · rw [if_neg hc, List.append_nil] at hawaited
      exact ⟨by rwa [hawaited], by rwa [hawaited]⟩
  | none =>
    cases e with
    | acquire c => cases he
    | tryAcquire c => cases he
    | settle i outcome =>
      rcases awaitedBy_settled h c hst hone with ⟨hsettled, hsame⟩ | ⟨op, hsettled, hop, hnext⟩
      · rw [hsettled, Option.toList_none, List.append_nil]
        exact ⟨by rwa [hsame], by rwa [hsame]⟩
      · rw [hsettled, Option.toList_some]
        rw [hop] at hchain
        rcases hnext with hend | ⟨op', hop', hnext⟩
        · exact ⟨by simp [hend], by rwa [hend, List.append_nil]⟩
        · refine ⟨by simp [hop'], ?_⟩
          rw [hop', List.append_assoc]
          exact List.isChain_append_cons_cons.mpr
            ⟨hchain, hnext, List.isChain_singleton op'⟩

/-- INTERNAL: **a run** keeps the order of a caller that calls at most once. The induction is on
the run, for what has settled before it. -/
theorem inOrder_run {c : ℕ} {es : List (FormEvent ε)} {s t : Forms ε} (h : FormsWellFormed s)
    (hrun : runFrom formStep s es = some t) {history : List FormOp} (horder : InOrder c history s)
    (hcalls : es.countP (callerOf · = some c) = 0 ∨
      (history ++ awaitedBy c s = [] ∧ es.countP (callerOf · = some c) ≤ 1)) :
    InOrder c (history ++ settlements c s es) t := by
  induction es generalizing s history with
  | nil =>
    cases hrun
    rwa [settlements, List.append_nil]
  | cons e es ih =>
    obtain ⟨u, hu, hrest⟩ := Option.bind_eq_some_iff.mp hrun
    rw [settlements, hu, ← List.append_assoc]
    rw [List.countP_cons] at hcalls
    by_cases hcall : callerOf e = some c
    · simp only [hcall, decide_true, if_true] at hcalls
      have hnew : history = [] ∧ awaitedBy c s = [] := by
        rcases hcalls with hnone | ⟨hnew, -⟩
        · omega
        · exact List.append_eq_nil_iff.mp hnew
      refine ih (formsWellFormed_step s e u h hu) hrest
        (inOrder_step h hu horder fun _ => hnew) (Or.inl ?_)
      omega
    · simp only [hcall, decide_false, Bool.false_eq_true, if_false, Nat.add_zero] at hcalls
      refine ih (formsWellFormed_step s e u h hu) hrest
        (inOrder_step h hu horder fun h => absurd h hcall) ?_
      rcases hcalls with hnone | ⟨hnew, hle⟩
      · exact Or.inl hnone
      · obtain ⟨rfl, hidle⟩ := List.append_eq_nil_iff.mp hnew
        obtain ⟨hsettled, hidle⟩ := idle_step h hu hcall hidle
        exact Or.inr ⟨by simp [hsettled, hidle], hle⟩

/-! ## All callers -/

/-- INTERNAL: what is taken out of a list takes its weight along. -/
theorem sum_eraseIdx {α : Type} (f : α → ℕ) {l : List α} {i : ℕ} {a : α} (h : l[i]? = some a) :
    ((l.eraseIdx i).map f).sum + f a = (l.map f).sum := by
  obtain ⟨hi, ha⟩ := List.getElem?_eq_some_iff.mp h
  have hsum := List.CommMonoid.add_sum_eraseIdx (l := l.map f) (i := i) (by simpa using hi)
  rw [List.getElem_map, ha, List.eraseIdx_map] at hsum
  rw [Nat.add_comm]
  exact hsum

/-- INTERNAL: what comes next is less. -/
theorem work_of_next {op op' : FormOp} (h : op.next = some op') : op'.work + 1 = op.work := by
  unfold FormOp.work
  rw [FormOp.onwards_of_next h]
  rfl

/-- INTERNAL: and never nothing. -/
theorem work_pos (op : FormOp) : 1 ≤ op.work := op.onwards_ne_nil.length_le

/-- INTERNAL: nor more than an acquisition, a callback and a release. -/
theorem work_le (op : FormOp) : op.work ≤ 3 := by
  obtain ⟨first, -, hsuffix⟩ := op.onwards_suffix
  exact hsuffix.length_le

/-- INTERNAL: every settlement is one of three of its form. -/
theorem work_step (s : Forms ε) (e : FormEvent ε) (t : Forms ε) (h : FormsWellFormed s)
    (hst : formStep s e = some t) :
    workLeft t + (if isSettlement s e then 1 else 0) ≤
      workLeft s + if isCall s e then 3 else 0 := by
  unfold isSettlement isCall workLeft
  cases he : callerOf e with
  | some c =>
    obtain ⟨task, -, hflight⟩ := called_flight he hst
    have := work_le task.op
    rw [hflight, List.map_append, List.sum_append, List.map_singleton, List.sum_singleton]
    simpa using this
  | none =>
    cases e with
    | acquire c => cases he
    | tryAcquire c => cases he
    | settle i outcome =>
      cases htask : s.pool.inFlight[i]? with
      | none => simp [formStep_settle_none htask] at hst
      | some task =>
        have hsum : ((s.pool.inFlight.eraseIdx i).map fun task => task.op.work).sum +
            task.op.work = (s.pool.inFlight.map fun task => task.op.work).sum :=
          sum_eraseIdx _ htask
        have hpos := work_pos task.op
        obtain ⟨t', hst', hflight⟩ := settled_flight h htask outcome
        cases hst.symm.trans hst'
        simp only [Option.isNone_none, Option.isSome_none, if_true, Bool.false_eq_true, if_false,
          Nat.add_zero]
        rcases hflight with hflight | ⟨task', hflight, -, hnext⟩
        · rw [hflight]
          omega
        · have := work_of_next hnext
          rw [hflight, List.map_append, List.sum_append, List.map_singleton, List.sum_singleton]
          omega

/-! ## To the end -/

/-- INTERNAL: what is first in flight settles first. -/
theorem settleFirst_succ (outcomes : ℕ → Except ε Bool) (n : ℕ) :
    settleFirst outcomes (n + 1) =
      .settle 0 (outcomes 0) :: settleFirst (fun k => outcomes (k + 1)) n := by
  simp [settleFirst, List.range_succ_eq_map]

/-- INTERNAL: **from any state** the forms in flight end, whatever they are answered. The
induction is on the work that is left. -/
theorem exists_end (n : ℕ) (s : Forms ε) (h : FormsWellFormed s) (hn : workLeft s ≤ n)
    (outcomes : ℕ → Except ε Bool) :
    ∃ m ≤ n, ∃ t, runFrom formStep s (settleFirst outcomes m) = some t ∧
      t.pool.inFlight = [] := by
  induction n generalizing s outcomes with
  | zero =>
    refine ⟨0, Nat.le_refl 0, s, rfl, ?_⟩
    cases hflight : s.pool.inFlight with
    | nil => rfl
    | cons task rest =>
      have := work_pos task.op
      simp only [workLeft, hflight, List.map_cons, List.sum_cons] at hn
      omega
  | succ n ih =>
    cases hflight : s.pool.inFlight with
    | nil => exact ⟨0, Nat.zero_le _, s, rfl, hflight⟩
    | cons task rest =>
      have htask : s.pool.inFlight[0]? = some task := by rw [hflight, List.getElem?_cons_zero]
      obtain ⟨t, hst, -⟩ := settled_flight h htask (outcomes 0)
      have hless := work_step s _ t h hst
      simp only [isSettlement, isCall, callerOf, Option.isNone_none, Option.isSome_none, if_true,
        Bool.false_eq_true, if_false, Nat.add_zero] at hless
      obtain ⟨m, hm, u, hrun, hend⟩ := ih t (formsWellFormed_step s _ t h hst) (by omega)
        fun k => outcomes (k + 1)
      refine ⟨m + 1, Nat.succ_le_succ hm, u, ?_, hend⟩
      rw [settleFirst_succ, runFrom_cons, hst]
      exact hrun

/-- **Callback forms come to an end.** In every interleaving of `acquire(callback)` and
`tryAcquire(callback)` calls, whatever the operations of the underlying lock and the callbacks
settle with: what has settled for a caller that called at most once, and what it waits for then,
are an acquisition, the callback and a release, in this order and each at most once, without a gap;
the settlements so far, with those that may still come, are at most three for each call; and when
no more calls come, all forms have ended after at most as many settlements as may still come.
SOURCE: shared-lock.ts:11-58 -/
theorem forms_complete {es : List (FormEvent ε)} {s : Forms ε}
    (hrun : runFrom formStep freshForms es = some s) :
    (∀ c, es.countP (callerOf · = some c) ≤ 1 → ∃ first, first ≠ LockOp.release ∧
      settlements c freshForms es ++ awaitedBy c s <:+:
        [.lock first, .callback, .lock .release]) ∧
    countSteps formStep isSettlement freshForms es + workLeft s ≤
      3 * countSteps formStep isCall freshForms es ∧
    ∀ outcomes, ∃ n ≤ workLeft s, ∃ t,
      runFrom formStep s (settleFirst outcomes n) = some t ∧ t.pool.inFlight = [] := by
  have hwf : FormsWellFormed s :=
    invariant_of_run formsWellFormed_step formsWellFormed_fresh hrun
  have hwork := countSteps_add_weight_le formsWellFormed_step work_step formsWellFormed_fresh hrun
  refine ⟨fun c hcalls => ?_, ?_, exists_end _ s hwf (Nat.le_refl _)⟩
  · have hfresh : InOrder c [] (freshForms : Forms ε) := ⟨Nat.zero_le 1, List.isChain_nil⟩
    have horder := inOrder_run formsWellFormed_fresh hrun hfresh (Or.inr ⟨rfl, hcalls⟩)
    exact FormOp.infix_of_chain horder.chain
  · simpa [workLeft, freshForms] using hwork

/-- A form that is granted, one that is called while its callback runs, and a rejected callback:
its caller has seen the acquisition and the callback, in this order, and the release is left to the
other one. -/
theorem two_forms_complete :
    ∃ s, runFrom formStep (freshForms : Forms String)
        [.acquire 0, .settle 0 (.ok true), .tryAcquire 1, .settle 0 (.error "failed")] = some s ∧
      settlements 0 (freshForms : Forms String)
        [.acquire 0, .settle 0 (.ok true), .tryAcquire 1, .settle 0 (.error "failed")] =
          [.lock .acquire, .callback] ∧
      awaitedBy 0 s = [] ∧ awaitedBy 1 s = [.callback] ∧ workLeft s = 2 ∧
      ∀ outcomes, ∃ n ≤ 2, ∃ t,
        runFrom formStep s (settleFirst outcomes n) = some t ∧ t.pool.inFlight = [] := by
  obtain ⟨s, hrun, hawaited, hother, hwork⟩ : ∃ s, runFrom formStep (freshForms : Forms String)
      [.acquire 0, .settle 0 (.ok true), .tryAcquire 1, .settle 0 (.error "failed")] = some s ∧
      awaitedBy 0 s = [] ∧ awaitedBy 1 s = [.callback] ∧ workLeft s = 2 :=
    ⟨_, rfl, rfl, rfl, rfl⟩
  have hcomplete := (forms_complete hrun).2.2
  rw [hwork] at hcomplete
  exact ⟨s, hrun, rfl, hawaited, hother, hwork, hcomplete⟩

end Xnestjs.Analysis
