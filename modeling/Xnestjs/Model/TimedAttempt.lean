import Xnestjs.Model.Run

/-!
# Messages of an attempt with a timer

A component awaits a few calls, one after the other, and writes messages to a logger: one when
a timer fires before the calls have settled, and one at the end, when all of them are resolved
or when one is rejected. The timer fires at most once, and the end of the attempt stops it. The
events come in any order that these rules allow.
-/

set_option autoImplicit false

namespace Xnestjs.Model

inductive LogLevel where
  | log
  | verbose
  | error
  deriving DecidableEq, Repr

structure LogMessage where
  level : LogLevel
  text : String
  deriving DecidableEq, Repr

/-- The timer fires, or the awaited call settles; a rejection has a message of its own. -/
inductive AttemptEvent where
  | timer
  | resolved
  | rejected (message : String)
  deriving DecidableEq, Repr

/-- What an attempt writes: when the timer fires, when all calls are resolved, and when one is
rejected. -/
structure TimedAttempt (M : Type) where
  waiting : M
  established : M
  failed : String → M

/-- How many calls are still to settle, whether the timer is set, and what was written. -/
structure AttemptState (M : Type) where
  remaining : ℕ
  timerSet : Bool
  written : List M
  deriving DecidableEq, Repr

/-- Nothing to await and nothing written. -/
def AttemptState.idle {M : Type} : AttemptState M := ⟨0, false, []⟩

namespace TimedAttempt

variable {M : Type}

def step (t : TimedAttempt M) (s : AttemptState M) : AttemptEvent → Option (AttemptState M)
  | .timer =>
    if s.timerSet then some { s with timerSet := false, written := s.written ++ [t.waiting] }
    else none
  | .resolved =>
    match s.remaining with
    | 0 => none
    | 1 => some ⟨0, false, s.written ++ [t.established]⟩
    | n + 2 => some { s with remaining := n + 1 }
  | .rejected message =>
    match s.remaining with
    | 0 => none
    | _ + 1 => some ⟨0, false, s.written ++ [t.failed message]⟩

/-- What a run of events writes, `none` when one of them cannot happen. -/
def messages (t : TimedAttempt M) (s : AttemptState M) (es : List AttemptEvent) :
    Option (List M) :=
  (runFrom t.step s es).map AttemptState.written

/-- Without events nothing is written. -/
@[simp] theorem messages_nil (t : TimedAttempt M) (s : AttemptState M) :
    t.messages s [] = some s.written := rfl

/-- The timer writes the waiting message. -/
theorem messages_timer (t : TimedAttempt M) {s : AttemptState M} (hset : s.timerSet = true) :
    t.messages s [.timer] = some (s.written ++ [t.waiting]) := by
  simp [messages, step, hset]

/-- After the end, and when there is nothing to await, no event is left, so that nothing more is
written. -/
theorem messages_settled (t t' : TimedAttempt M) {s : AttemptState M}
    (hremaining : s.remaining = 0) (htimer : s.timerSet = false) (es : List AttemptEvent) :
    t.messages s es = t'.messages s es := by
  have hstep : ∀ (u : TimedAttempt M) e, u.step s e = none := by
    intro u e
    cases e with
    | timer => simp [step, htimer]
    | resolved => simp [step, hremaining]
    | rejected message => simp [step, hremaining]
  cases es with
  | nil => rfl
  | cons e es => simp [messages, hstep]

end TimedAttempt

end Xnestjs.Model
