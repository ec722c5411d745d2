import Xnestjs.Model.TimedAttempt

/-!
# An attempt with a `finally`

An asynchronous function awaits a few calls in a `try`, reports how they end, and may await one
more call in a `finally`. Beside it runs a timer, which writes a message of its own as long as the
`try` has not ended. What the function does is given twice: as a machine that takes the events in
the order in which they happen, and as a function of how the calls settle. The machine writes and
returns what the function says, wherever in the run the timer fires.
-/

set_option autoImplicit false

namespace Xnestjs.Model

/-- How a call settles, and how a function ends. -/
abbrev Settled := Except String Unit

inductive AttemptPhase where
  /-- One call of the `try`, and `left` more after it, have not settled. -/
  | trying (left : ℕ)
  /-- The `try` has ended, and the call of the `finally` has not settled. -/
  | cleaning (result : Settled)
  | ended (result : Settled)

/-- Where the function is, whether the timer is set, and what was written. -/
structure GuardedState (M : Type) where
  phase : AttemptPhase
  timerSet : Bool
  written : List M

/-- The messages, and whether there is a `finally`. -/
structure GuardedAttempt (M : Type) extends TimedAttempt M where
  cleanup : Bool

/-- The same state of a function without a `finally`; with nothing to await it has ended. -/
def AttemptState.guarded {M : Type} (s : AttemptState M) : GuardedState M where
  phase :=
    match s.remaining with
    | 0 => .ended (.ok ())
    | left + 1 => .trying left
  timerSet := s.timerSet
  written := s.written

def AttemptEvent.settled : AttemptEvent → Option Settled
  | .timer => none
  | .resolved => some (.ok ())
  | .rejected message => some (.error message)

/-- How the calls settle, in order. -/
def settlements (es : List AttemptEvent) : List Settled := es.filterMap AttemptEvent.settled

namespace GuardedAttempt

variable {M : Type}

def report (g : GuardedAttempt M) : Settled → M
  | .ok () => g.established
  | .error message => g.failed message

def afterTry (g : GuardedAttempt M) (result : Settled) : AttemptPhase :=
  if g.cleanup then .cleaning result else .ended result

/-- A rejection in the `finally` takes the place of the result. -/
def afterFinally (result : Settled) : Settled → Settled
  | .ok () => result
  | .error message => .error message

/-- A call settles. The end of the `try` stops the timer and is reported. -/
def settle (g : GuardedAttempt M) (s : GuardedState M) (x : Settled) : Option (GuardedState M) :=
  match s.phase, x with
  | .trying (n + 1), .ok () => some { s with phase := .trying n }
  | .trying 0, .ok () => some ⟨g.afterTry (.ok ()), false, s.written ++ [g.report (.ok ())]⟩
  | .trying _, .error message =>
    some ⟨g.afterTry (.error message), false, s.written ++ [g.report (.error message)]⟩
  | .cleaning result, x => some { s with phase := .ended (afterFinally result x) }
  | .ended _, _ => none

def step (g : GuardedAttempt M) (s : GuardedState M) (e : AttemptEvent) :
    Option (GuardedState M) :=
  match e.settled with
  | some x => g.settle s x
  | none =>
    if s.timerSet then some { s with timerSet := false, written := s.written ++ [g.waiting] }
    else none

/-! ## The function of the outcomes -/

/-- The result of the `try` with `left + 1` calls, and the outcomes that are left. -/
def tryCalls : ℕ → List Settled → Option (Settled × List Settled)
  | _, [] => none
  | _, .error message :: xs => some (.error message, xs)
  | 0, .ok () :: xs => some (.ok (), xs)
  | left + 1, .ok () :: xs => tryCalls left xs

/-- The result of the `try`, once it has ended. -/
def tryResult (left : ℕ) (xs : List Settled) : Option Settled := (tryCalls left xs).map Prod.fst

/-- The result of the function after the `try`, once it has ended. -/
def finish (g : GuardedAttempt M) (r : Settled) (xs : List Settled) : Option Settled :=
  if g.cleanup then xs.head?.map (afterFinally r) else some r

/-- The result of the function, once it has ended. -/
def result (g : GuardedAttempt M) (left : ℕ) (xs : List Settled) : Option Settled :=
  (tryCalls left xs).bind fun (r, xs) => g.finish r xs

/-! ## The machine does what the function says -/

/-- What is written in a run, when `w` was written before: the message of the timer, and then the
report. -/
def transcript (g : GuardedAttempt M) (left : ℕ) (w : List M) (es : List AttemptEvent) : List M :=
  w ++ (if .timer ∈ es then [g.waiting] else []) ++
    ((tryResult left (settlements es)).map g.report).toList

/-- Nothing settles in an empty run. -/
@[simp] theorem settlements_nil : settlements [] = [] := rfl

/-- The timer settles nothing. -/
@[simp] theorem settlements_timer (es : List AttemptEvent) :
    settlements (.timer :: es) = settlements es := rfl

/-- Any other event is a settlement. -/
theorem settlements_cons {e : AttemptEvent} {x : Settled} (hx : e.settled = some x)
    (es : List AttemptEvent) : settlements (e :: es) = x :: settlements es :=
  List.filterMap_cons_some hx

variable (g : GuardedAttempt M)

/-- An event that settles nothing is the timer. -/
theorem eq_timer {e : AttemptEvent} (h : e.settled = none) : e = .timer := by
  cases e with
  | timer => rfl
  | resolved => cases h
  | rejected message => cases h

/-- The timer fires while it is set, and writes the waiting message. -/
theorem step_timer (s : GuardedState M) :
    g.step s .timer =
      if s.timerSet then some { s with timerSet := false, written := s.written ++ [g.waiting] }
      else none := rfl

/-- A settlement is what `settle` makes of it. -/
theorem step_settled {e : AttemptEvent} {x : Settled} (hx : e.settled = some x)
    (s : GuardedState M) : g.step s e = g.settle s x := by
  unfold step
  rw [hx]

/-- INTERNAL: nothing happens after the end. -/
theorem run_ended {r : Settled} {w : List M} {es : List AttemptEvent} {s : GuardedState M}
    (hrun : runFrom g.step ⟨.ended r, false, w⟩ es = some s) :
    es = [] ∧ s = ⟨.ended r, false, w⟩ := by
  cases es with
  | nil => exact ⟨rfl, (Option.some.inj hrun).symm⟩
  | cons e es =>
    rw [runFrom_cons] at hrun
    cases hx : e.settled with
    | none => simp [step, hx] at hrun
    | some x => simp [step_settled g hx, settle] at hrun

/-- INTERNAL: in the `finally`, one call settles. -/
theorem run_cleaning {r : Settled} {w : List M} {es : List AttemptEvent} {s : GuardedState M}
    (hrun : runFrom g.step ⟨.cleaning r, false, w⟩ es = some s) :
    (es = [] ∧ s = ⟨.cleaning r, false, w⟩) ∨
      ∃ e x, es = [e] ∧ e.settled = some x ∧ s = ⟨.ended (afterFinally r x), false, w⟩ := by
  cases es with
  | nil => exact Or.inl ⟨rfl, (Option.some.inj hrun).symm⟩
  | cons e es =>
    rw [runFrom_cons] at hrun
    cases hx : e.settled with
    | none => simp [step, hx] at hrun
    | some x =>
      rw [step_settled g hx] at hrun
      obtain ⟨rfl, rfl⟩ := run_ended g hrun
      exact Or.inr ⟨e, x, rfl, hx, rfl⟩

/-- INTERNAL: after the `try`, nothing more is written. -/
theorem run_afterTry {r : Settled} {w : List M} {es : List AttemptEvent} {s : GuardedState M}
    (hrun : runFrom g.step ⟨g.afterTry r, false, w⟩ es = some s) :
    .timer ∉ es ∧ s.written = w ∧
      ∀ r', s.phase = .ended r' ↔ g.finish r (settlements es) = some r' := by
  unfold afterTry at hrun
  unfold finish
  split_ifs at hrun ⊢ with hcleanup
  · rcases run_cleaning g hrun with ⟨rfl, rfl⟩ | ⟨e, x, rfl, hx, rfl⟩
    · simp
    · have he : .timer ≠ e := by
        rintro rfl
        cases hx
      simp [he, settlements_cons hx]
  · obtain ⟨rfl, rfl⟩ := run_ended g hrun
    simp

/-- **The machine does what the function says**: from the beginning of the `try`, it has written
the transcript, and it has ended with a result exactly when the function has that result. -/
theorem run_trying {left : ℕ} {b : Bool} {w : List M} {es : List AttemptEvent}
    {s : GuardedState M} (hrun : runFrom g.step ⟨.trying left, b, w⟩ es = some s) :
    s.written = g.transcript left w es ∧
      (∀ r, s.phase = .ended r ↔ g.result left (settlements es) = some r) ∧
      (.timer ∈ es → b = true) := by
  induction es generalizing left b w with
  | nil =>
    obtain rfl := Option.some.inj hrun
    simp [transcript, tryResult, tryCalls, result]
  | cons e es ih =>
    obtain ⟨t, ht, hrest⟩ := Option.bind_eq_some_iff.mp hrun
    cases hx : e.settled with
    | none =>
      obtain rfl := eq_timer hx
      rw [step_timer] at ht
      split_ifs at ht with hset
      obtain rfl := Option.some.inj ht
      obtain ⟨hwritten, hphase, hlater⟩ := ih hrest
      have honce : .timer ∉ es := fun hmem => Bool.false_ne_true (hlater hmem)
      refine ⟨?_, hphase, fun _ => hset⟩
      rw [hwritten]
      simp [transcript, honce]
    | some x =>
      have he : .timer ≠ e := by
        rintro rfl
        cases hx
      rw [step_settled g hx] at ht
      cases x with
      | error message =>
        have ht' : t = ⟨g.afterTry (.error message), false,
            w ++ [g.report (.error message)]⟩ := by
          cases left <;> exact (Option.some.inj ht).symm
        subst ht'
        obtain ⟨htimer, hwritten, hphase⟩ := run_afterTry g hrest
        have hcalls : ∀ xs, tryCalls left (.error message :: xs) = some (.error message, xs) := by
          cases left <;> exact fun _ => rfl
        simp [transcript, tryResult, result, settlements_cons hx, hcalls, htimer, he, hwritten,
          hphase]
      | ok u =>
        cases left with
        | zero =>
          obtain rfl := Option.some.inj ht
          obtain ⟨htimer, hwritten, hphase⟩ := run_afterTry g hrest
          simp [transcript, tryResult, result, settlements_cons hx, tryCalls, htimer, he, hwritten,
            hphase]
        | succ n =>
          obtain rfl := Option.some.inj ht
          obtain ⟨hwritten, hphase, hlater⟩ := ih hrest
          simp only [transcript, tryResult, result, settlements_cons hx, tryCalls, List.mem_cons,
            he, false_or]
          exact ⟨hwritten, hphase, hlater⟩

/-- A function that has not ended goes on however the next call settles. -/
theorem exists_step_of_not_ended {s : GuardedState M} (hs : ∀ r, s.phase ≠ .ended r)
    {e : AttemptEvent} {x : Settled} (hx : e.settled = some x) : ∃ t, g.step s e = some t := by
  rw [step_settled g hx]
  obtain ⟨phase, timerSet, written⟩ := s
  cases phase with
  | trying left => cases left <;> cases x <;> exact ⟨_, rfl⟩
  | cleaning r => exact ⟨_, rfl⟩
  | ended r => exact absurd rfl (hs r)

/-! ## Without a `finally` -/

/-- The state as the machine without results has it. -/
def forget (s : GuardedState M) : AttemptState M where
  remaining :=
    match s.phase with
    | .trying left => left + 1
    | _ => 0
  timerSet := s.timerSet
  written := s.written

/-- Guarding an attempt adds nothing that is not forgotten. -/
theorem forget_guarded (s : AttemptState M) : forget s.guarded = s := by
  obtain ⟨remaining, timerSet, written⟩ := s
  cases remaining <;> rfl

/-- INTERNAL: a step is a step of the machine without results. -/
theorem forget_step {g : GuardedAttempt M} (hg : g.cleanup = false) {s : GuardedState M}
    (hs : ∀ r, s.phase ≠ .cleaning r) (e : AttemptEvent) :
    (g.step s e).map forget = g.toTimedAttempt.step (forget s) e := by
  obtain ⟨phase, timerSet, written⟩ := s
  cases phase with
  | cleaning r => exact absurd rfl (hs r)
  | trying left =>
    cases e with
    | timer => cases timerSet <;> rfl
    | resolved =>
      cases left with
      | zero => simp [step, AttemptEvent.settled, settle, afterTry, hg, forget, report,
          TimedAttempt.step]
      | succ n => rfl
    | rejected message =>
      cases left <;> simp [step, AttemptEvent.settled, settle, afterTry, hg, forget, report,
          TimedAttempt.step]
  | ended r =>
    cases e with
    | timer => cases timerSet <;> rfl
    | resolved => rfl
    | rejected message => rfl

/-- INTERNAL: and the `finally` is never entered. -/
theorem not_cleaning_step {g : GuardedAttempt M} (hg : g.cleanup = false)
    {s t : GuardedState M} {e : AttemptEvent} (hs : ∀ r, s.phase ≠ .cleaning r)
    (ht : g.step s e = some t) : ∀ r, t.phase ≠ .cleaning r := by
  obtain ⟨phase, timerSet, written⟩ := s
  cases hx : e.settled with
  | none =>
    obtain rfl := eq_timer hx
    rw [step_timer] at ht
    split_ifs at ht
    obtain rfl := Option.some.inj ht
    exact hs
  | some x =>
    rw [step_settled g hx] at ht
    cases phase with
    | cleaning r => exact absurd rfl (hs r)
    | ended r => cases ht
    | trying left =>
      cases left <;> cases x <;> obtain rfl := Option.some.inj ht <;> simp [afterTry, hg]

/-- **Without a `finally`** the messages are those of the machine without results. -/
theorem messages_of_no_cleanup {g : GuardedAttempt M} (hg : g.cleanup = false)
    (s : AttemptState M) (es : List AttemptEvent) :
    g.toTimedAttempt.messages s es =
      (runFrom g.step s.guarded es).map GuardedState.written := by
  have hruns : ∀ (es : List AttemptEvent) (u : GuardedState M), (∀ r, u.phase ≠ .cleaning r) →
      runFrom g.toTimedAttempt.step (forget u) es = (runFrom g.step u es).map forget := by
    intro es
    induction es with
    | nil => exact fun u _ => rfl
    | cons e es ih =>
      intro u hu
      rw [runFrom_cons, runFrom_cons, ← forget_step hg hu]
      cases ht : g.step u e with
      | none => rfl
      | some t => exact ih t (not_cleaning_step hg hu ht)
  have hstart : ∀ r, s.guarded.phase ≠ .cleaning r := by
    obtain ⟨remaining, timerSet, written⟩ := s
    intro r
    cases remaining <;> exact fun h => AttemptPhase.noConfusion h
  unfold TimedAttempt.messages
  conv_lhs => rw [← forget_guarded s]
  rw [hruns es _ hstart, Option.map_map]
  rfl

end GuardedAttempt

end Xnestjs.Model
